import SqlRecords.Calendar.DateTime
import SqlRecords.Json.Basic
import SqlRecords.Text.Blank
import SqlRecords.Text.Utf8
import SqlRecords.Value.Uuid

/-!
# SQL values

A `Value` is a bound parameter or what a column of a row holds. `Value.asText` is how it shows in
messages, in patterns and where a text is asked for.
-/

namespace SqlRecords

/-- A parameter or a column value; a list stands for one placeholder per element. -/
inductive Value where
  | null
  | bool (b : Bool)
  | int (n : I32)
  | bigint (n : I64)
  | double (x : Float)
  | char (c : Char)
  | text (s : String)
  | date (d : Date)
  | dateTime (t : DateTime)
  | uuid (u : Uuid)
  | json (j : Json)
  | bytes (bs : List UInt8)
  | list (items : List Value)

namespace Value

instance : Inhabited Value := ⟨null⟩

/-- The value is null. -/
def isNull : Value → Bool
  | null => true
  | _ => false

/-- What error messages call the kind of a value. -/
def kind : Value → String
  | null => "null"
  | bool _ => "bool"
  | int _ => "int"
  | bigint _ => "bigint"
  | double _ => "double"
  | char _ => "char"
  | text _ => "text"
  | date _ => "date"
  | dateTime _ => "datetime"
  | uuid _ => "uuid"
  | json _ => "json"
  | bytes _ => "bytes"
  | list _ => "list"

/-- The text of a text value. -/
def text? : Value → Option String
  | text s => some s
  | _ => none

/-- The integer of an integer or of a truth value; doubles have none. -/
def toInt? : Value → Option Int
  | int n => some n.val
  | bigint n => some n.val
  | bool b => some b.toNat
  | _ => none

/-- Null, an empty text, no bytes or an empty list. -/
def isEmpty : Value → Bool
  | null => true
  | text s => s.isEmpty
  | list items => items.isEmpty
  | bytes bs => bs.isEmpty
  | _ => false

/-- Empty, or a text of blanks alone. -/
def isBlank : Value → Bool
  | text s => Text.blank s
  | v => v.isEmpty

mutual

/-- The value as text; the elements of a list stand between commas. -/
def asText : Value → String
  | null => "null"
  | bool b => if b then "true" else "false"
  | int n => Text.intText n.val
  | bigint n => Text.intText n.val
  | double x => Double.plain.text x
  | char c => String.singleton c
  | text s => s
  | date d => d.text
  | dateTime t => t.text
  | uuid u => u.text
  | json j => j.text
  | bytes bs => Text.Utf8.decode bs
  | list items => ",".intercalate (asTexts items)

/-- The texts of the values. -/
def asTexts : List Value → List String
  | [] => []
  | v :: rest => v.asText :: asTexts rest

end

end Value

/-- Where a pattern leaves room for other text. -/
inductive Wildcard where
  | both | before | after
  deriving DecidableEq, Repr

/-- The pattern that a value's text makes. -/
def Wildcard.wrap (w : Wildcard) (v : Value) : String :=
  match w with
  | both => "%" ++ v.asText ++ "%"
  | before => "%" ++ v.asText
  | after => v.asText ++ "%"

end SqlRecords
