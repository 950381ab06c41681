import SqlRecords.Text.Pieces
import SqlRecords.Value.FieldType

/-!
# Rows

A row is a list of columns, each with its label and its value. Labels are compared without regard
to the case of letters A to Z, and the first column of a label counts.
-/

namespace SqlRecords

/-- The columns of one row of a result, in order. -/
structure Row where
  cells : List (String × Value)

namespace Row

/-- The row without columns. -/
def empty : Row := ⟨[]⟩

instance : Inhabited Row := ⟨empty⟩

/-- The row of parallel lists; what is left over on either side is dropped. -/
def ofLists (columns : List String) (values : List Value) : Row := ⟨columns.zip values⟩

/-- The row with one more column at its end. -/
def push (row : Row) (column : String) (v : Value) : Row := ⟨row.cells ++ [(column, v)]⟩

/-- The number of columns. -/
def size (row : Row) : Nat := row.cells.length

/-- The row has no columns. -/
def isEmpty (row : Row) : Bool := row.cells.isEmpty

/-- The labels, in order. -/
def columns (row : Row) : List String := row.cells.map (·.1)

/-- The values, in order. -/
def values (row : Row) : List Value := row.cells.map (·.2)

/-- The value of the first column of this label. -/
def get? (row : Row) (column : String) : Option Value :=
  (row.cells.find? fun cell => Text.sameIgnoringCase cell.1 column).map (·.2)

/-- There is a column of this label. -/
def contains (row : Row) (column : String) : Bool := (row.get? column).isSome

/-- The value at a position. -/
def at? (row : Row) (i : Nat) : Option Value := row.values[i]?

/-- The value of a column as one of a field type; a column that is not there reads as null. -/
def read (row : Row) (t : FieldType) (column : String) : Except ConversionError t.Carrier :=
  t.read ((row.get? column).getD .null)

end Row

end SqlRecords
