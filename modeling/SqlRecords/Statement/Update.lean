import SqlRecords.Statement.Insert

/-!
# Update statements

An update grows by assignments and ends with a condition.
-/

namespace SqlRecords

/-- An update statement without its condition. -/
structure Update where
  text : String

namespace Update

/-- An update of a table that sets nothing yet. -/
def table (name : String) : Update := ⟨"update " ++ name ++ " set "⟩

/-- The update with a placeholder for each column. -/
def setColumns (u : Update) (columns : List String) : Except StatementError Update :=
  if columns.isEmpty then .error (.invalidArgument .noColumns)
  else .ok ⟨u.text ++ " = ?, ".intercalate columns ++ " = ? "⟩

/-- The update with assignments that are already written. -/
def set (u : Update) (assignments : String) : Update := ⟨u.text ++ assignments ++ " "⟩

/-- The statement for given values of columns. -/
def whereColumns (u : Update) (columns : List String) : Except StatementError String :=
  if columns.isEmpty then .error (.invalidArgument .noColumns)
  else .ok (u.text ++ "where " ++ equalities columns)

/-- The statement under a condition; a blank one is none. -/
def whereText (u : Update) (condition : String) : String :=
  if Text.blank condition then u.text ++ " "
  else u.text ++ "where " ++ condition ++ " "

end Update

end SqlRecords
