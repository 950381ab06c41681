import SqlRecords.Criterion.Filter

/-!
# Select statements

A select statement is its head and the clauses behind it, in the order they were added. The same
clauses serve the statement that counts.
-/

namespace SqlRecords

/-- What stands behind the head of a select statement. -/
inductive Select.Clause where
  /-- A join, a grouping or another clause that begins with its keyword. -/
  | phrase (keyword body : String)
  /-- A condition behind `where`. -/
  | condition (body : String)
  /-- The text of a filter that only orders. -/
  | ordering (body : String)

/-- The text of a clause. -/
def Select.Clause.text : Select.Clause → String
  | phrase keyword body => keyword ++ " " ++ body ++ " "
  | condition body => "where " ++ body
  | ordering body => body

/-- A select statement under construction. -/
structure Select where
  table : String
  columns : String := "*"
  /-- What the counting form counts. -/
  counted : String := "*"
  /-- The counting form is the one that is shown. -/
  counts : Bool := false
  clauses : List Select.Clause := []

namespace Select

/-- The statement with one more clause. -/
def push (s : Select) (clause : Clause) : Select := { s with clauses := s.clauses ++ [clause] }

/-- The statement that shows as a count. -/
def count (s : Select) (counted : String) : Select := { s with counts := true, counted := counted }

/-- The statement with a phrase of result columns. -/
def selecting (s : Select) (columns : String) : Select := { s with columns := columns }

/-- The statement with a list of result columns. -/
def selectingList (s : Select) (columns : List String) : Select :=
  { s with columns := ",".intercalate columns }

/-- The statement with a clause of its own keyword. -/
def phrase (s : Select) (keyword body : String) : Select := s.push (.phrase keyword body)

/-- The statement under a condition; a blank one is none. -/
def whereText (s : Select) (condition : String) : Select :=
  if Text.blank condition then s else s.push (.condition condition)

/-- The statement under a filter. A text that begins with `order by` needs no `where`. -/
def filtered (s : Select) (cs : List Criterion) : Except StatementError Select := do
  let text ← Filter.text cs
  if text.isEmpty then return s
  else if text.startsWith "order by" then return s.push (.ordering text)
  else return s.push (.condition text)

/-- The clauses behind a head, and a blank if there are any. -/
def finish (s : Select) (head : String) : String :=
  if s.clauses.isEmpty then head
  else head ++ String.join (s.clauses.map Clause.text) ++ " "

/-- The statement that selects. -/
def text (s : Select) : String := s.finish ("select " ++ s.columns ++ " from " ++ s.table ++ " ")

/-- The statement that counts. -/
def countText (s : Select) : String :=
  s.finish ("select count(" ++ s.counted ++ ") from " ++ s.table ++ " ")

/-- The form that shows. -/
def shown (s : Select) : String := if s.counts then s.countText else s.text

end Select

end SqlRecords
