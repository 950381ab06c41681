import SqlRecords.Value.Basic

/-!
# Assignments

The columns that an update sets, with their values.
-/

namespace SqlRecords

/-- Columns and the values they are set to, in order. -/
structure Assignments where
  entries : List (String × Value)

namespace Assignments

/-- Nothing is set. -/
def empty : Assignments := ⟨[]⟩

instance : Inhabited Assignments := ⟨empty⟩

/-- One more column. -/
def set (a : Assignments) (column : String) (v : Value) : Assignments :=
  ⟨a.entries ++ [(column, v)]⟩

/-- One more column when `condition` holds. -/
def setIf (a : Assignments) (condition : Bool) (column : String) (v : Value) : Assignments :=
  if condition then a.set column v else a

/-- Nothing is set. -/
def isEmpty (a : Assignments) : Bool := a.entries.isEmpty

/-- `column = ?` for each column, with commas between. -/
def phrase (a : Assignments) : String :=
  ", ".intercalate (a.entries.map fun entry => entry.1 ++ " = ?")

/-- The values of the placeholders, in order. -/
def params (a : Assignments) : List Value := a.entries.map (·.2)

end Assignments

end SqlRecords
