import SqlRecords.Calendar.Pattern
import SqlRecords.Json.Reader
import SqlRecords.Value.Basic

/-!
# Values as JSON

A value is stored as an object of one field that is named for its kind; null is a name alone.
Dates and times are ISO texts and bytes are numbers.
-/

namespace SqlRecords.Value

/-- An integer as JSON. -/
def integerJson (n : Int) : Json :=
  match Json.Integer.ofInt? n with
  | some n => .integer n
  | none => .null

mutual

/-- The stored form of a value. A double that is not finite has none and becomes null. -/
def toJson : Value → Json
  | null => .string "Null"
  | bool b => .object [("Bool", .bool b)]
  | int n => .object [("Int", integerJson n.val)]
  | bigint n => .object [("BigInt", integerJson n.val)]
  | double x => .object [("Double", if x.isFinite then .number x else .null)]
  | char c => .object [("Char", .string (String.singleton c))]
  | text s => .object [("Text", .string s)]
  | date d => .object [("Date", .string d.text)]
  | dateTime t => .object [("DateTime", .string t.isoText)]
  | uuid u => .object [("Uuid", .string u.text)]
  | json j => .object [("Json", j)]
  | bytes bs => .object [("Bytes", .array (bs.map fun b => integerJson b.toNat))]
  | list items => .object [("List", .array (itemsToJson items))]

/-- The stored forms of the elements of a list. -/
def itemsToJson : List Value → List Json
  | [] => []
  | v :: rest => v.toJson :: itemsToJson rest

end

/-- An integer of the type `t`. -/
def integerOfJson? (t : IntType) : Json → Option t.Carrier
  | .integer n => t.ofInt? n.val
  | _ => none

/-- A text. -/
def stringOfJson? : Json → Option String
  | .string s => some s
  | _ => none

/-- The value of the kind `name` that holds `j`, unless it is a list. -/
def scalarOfJson? (name : String) (j : Json) : Option Value :=
  match name, j with
  | "Null", .null => some .null
  | "Bool", .bool b => some (.bool b)
  | "Int", j => (integerOfJson? .i32 j).map .int
  | "BigInt", j => (integerOfJson? .i64 j).map .bigint
  | "Double", .number x => some (.double x)
  | "Double", .integer n => some (.double (Float.ofInt n.val))
  | "Char", .string s =>
    match s.toList with
    | [c] => some (.char c)
    | _ => none
  | "Text", .string s => some (.text s)
  | "Date", .string s => (Calendar.readIsoDate? s.toList).map .date
  | "DateTime", .string s => (Calendar.readIsoDateTime? s.toList).map .dateTime
  | "Uuid", .string s => (Uuid.ofChars? s.toList).map .uuid
  | "Json", j => some (.json j.canonical)
  | "Bytes", .array items =>
    (items.mapM (integerOfJson? .u8)).map fun ns => .bytes (ns.map fun n => UInt8.ofNat n.val.toNat)
  | _, _ => none

mutual

/-- The value of a stored form. -/
def ofJson? : Json → Option Value
  | .string s => if s = "Null" then some .null else none
  | .object [("List", .array items)] => (itemsOfJson? items).map .list
  | .object [(name, j)] => scalarOfJson? name j
  | _ => none

/-- The elements of a stored list. -/
def itemsOfJson? : List Json → Option (List Value)
  | [] => some []
  | j :: rest => do
    let v ← ofJson? j
    let vs ← itemsOfJson? rest
    some (v :: vs)

end

/-- The stored form as text. -/
def toJsonText (v : Value) : String := v.toJson.text

/-- The value of a stored text. -/
def ofJsonText? (s : String) (limit : Json.DepthLimit := Json.depthLimit) : Option Value :=
  (Json.ofText? s limit).bind ofJson?

end SqlRecords.Value
