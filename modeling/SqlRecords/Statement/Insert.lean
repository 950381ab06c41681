import SqlRecords.Statement.Error
import SqlRecords.Text.Blank
import SqlRecords.Text.Pieces

/-!
# Insert and delete statements
-/

namespace SqlRecords

/-- `insert into table(columns) values (?, ?)`. -/
def insertText (table : String) (columns : List String) : Except StatementError String :=
  if columns.isEmpty then .error (.invalidArgument .noInsertColumns)
  else
    .ok ("insert into " ++ table ++ "(" ++ ",".intercalate columns ++ ") values (" ++
      Text.repeated "?" ", " columns.length ++ ")")

/-- The insert statement of columns in one phrase with commas; blanks around them are kept. -/
def insertTextOfPhrase (table phrase : String) : Except StatementError String :=
  insertText table (Text.split ',' phrase)

/-- Every column equals its placeholder. -/
def equalities (columns : List String) : String :=
  " and ".intercalate (columns.map fun column => column ++ " = ?")

/-- `delete from table`, without a condition. -/
def deleteText (table : String) : String := "delete from " ++ table ++ " "

/-- The delete statement for given values of columns; without columns it has no condition. -/
def deleteTextByColumns (table : String) (columns : List String) : String :=
  if columns.isEmpty then deleteText table
  else deleteText table ++ "where " ++ equalities columns

/-- The delete statement under a condition; a blank one is none. -/
def deleteTextWhere (table condition : String) : String :=
  if Text.blank condition then deleteText table
  else deleteText table ++ "where " ++ condition

end SqlRecords
