import SqlRecords.Calendar.Pattern
import SqlRecords.Json.Reader
import SqlRecords.Value.Basic
import SqlRecords.Value.Error

/-!
# Field types and coercion

A field type says what a field of a record holds. `FieldType.read` coerces a value into the type:
integers are checked against its range, texts are parsed, dates and times become one another.
`FieldType.write` is the value of a field.
-/

namespace SqlRecords

/-- The types of fields that hold a value. -/
inductive BaseType where
  | int (t : IntType)
  | single
  | double
  | bool
  | text
  | char
  | date
  | dateTime
  /-- A time known to be in UTC. -/
  | utc
  | uuid
  | json
  | bytes
  | value
  deriving DecidableEq

/-- The type of a field; an optional field may hold nothing. -/
inductive FieldType where
  | required (base : BaseType)
  | optional (base : BaseType)
  deriving DecidableEq

namespace BaseType

/-- What fields of the type hold. -/
def Carrier : BaseType → Type
  | int t => t.Carrier
  | single => Float32
  | double => Float
  | bool => Bool
  | text => String
  | char => Char
  | date => Date
  | dateTime => DateTime
  | utc => DateTime
  | uuid => Uuid
  | json => Json
  | bytes => List UInt8
  | value => Value

/-- The type's name in error messages. -/
def name : BaseType → String
  | int t => t.name
  | single => "f32"
  | double => "f64"
  | bool => "bool"
  | text => "String"
  | char => "char"
  | date => "NaiveDate"
  | dateTime => "NaiveDateTime"
  | utc => "DateTime<Utc>"
  | uuid => "Uuid"
  | json => "serde_json::Value"
  | bytes => "Vec<u8>"
  | value => "SqlValue"

/-- What a field holds before anything is assigned. -/
def default : (b : BaseType) → b.Carrier
  | int t => t.zero
  | single => (0 : Float32)
  | double => (0 : Float)
  | bool => false
  | text => ""
  | char => Char.ofNat 0
  | date => Date.epoch
  | dateTime => DateTime.ofDate Date.epoch
  | utc => DateTime.ofDate Date.epoch
  | uuid => Uuid.nil
  | json => Json.null
  | bytes => ([] : List UInt8)
  | value => Value.null

/-- The error for a value that never becomes one of the type `target`. -/
def mismatch (target : String) : Value → ConversionError
  | .null => .empty target
  | v => .incompatible target v.kind

/-- The 64-bit integer of a value, read for the type `target`. A double has to be integral;
the one just above the range counts as its end. -/
def readWide (target : String) : Value → Except ConversionError Int
  | .int n => .ok n.val
  | .bigint n => .ok n.val
  | .bool b => .ok b.toNat
  | .double x =>
    match Double.toInt? x with
    | some n =>
      if IntType.i64.lo ≤ n ∧ n ≤ IntType.i64.hi + 1 then .ok (min n IntType.i64.hi)
      else .error (.parse (Double.plain.text x) target .notIntegral)
    | none => .error (.parse (Double.plain.text x) target .notIntegral)
  | .text s =>
    (Text.readInteger IntType.i64.lo IntType.i64.hi (Text.trim s).toList).mapError fun fault =>
      .parse s target (.integer fault)
  | v => .error (mismatch target v)

/-- The integer of a value, in the range of the type. -/
def readInt (t : IntType) (v : Value) : Except ConversionError t.Carrier := do
  let n ← readWide t.name v
  match t.ofInt? n with
  | some n => .ok n
  | none => .error (.parse (Text.intText n) t.name .outOfRange)

/-- The double of a value; integers are rounded to the nearest one. -/
def readDouble : Value → Except ConversionError Float
  | .double x => .ok x
  | .int n => .ok (Float.ofInt n.val)
  | .bigint n => .ok (Float.ofInt n.val)
  | .text s =>
    (Text.readDouble (Text.trim s).toList).mapError fun fault => .parse s "f64" (.double fault)
  | v => .error (mismatch "f64" v)

/-- The truth value of a value; a number is true unless it is zero. -/
def readBool : Value → Except ConversionError Bool
  | .bool b => .ok b
  | .int n => .ok (n.val != 0)
  | .bigint n => .ok (n.val != 0)
  | .text s =>
    let word := (Text.trim s).toLower
    if word = "true" ∨ word = "1" then .ok true
    else if word = "false" ∨ word = "0" then .ok false
    else .error (.parse s "bool" .notTruthValue)
  | v => .error (mismatch "bool" v)

/-- The text of a value; null and lists have none. -/
def readText : Value → Except ConversionError String
  | .null => .error (mismatch "String" .null)
  | .list items => .error (mismatch "String" (.list items))
  | v => .ok v.asText

/-- The character of a value; a text has to be that character alone, blanks included. -/
def readChar : Value → Except ConversionError Char
  | .char c => .ok c
  | .text s =>
    match s.toList with
    | [c] => .ok c
    | _ => .error (.parse s "char" .notOneCharacter)
  | v => .error (mismatch "char" v)

/-- The time of a text: with a blank or a `T` before the clock, with a fraction behind a blank
alone, or a date, which starts at midnight. -/
def timeOfText? (s : List Char) : Option DateTime :=
  (Calendar.readDateTime? Calendar.spacedPattern s).or <|
    (Calendar.readDateTime? Calendar.joinedPattern s).or <|
      (Calendar.readDateTime? (Calendar.spacedPattern ++ [.fraction]) s).or
        ((Calendar.readDate? s).map DateTime.ofDate)

/-- The time of a value. -/
def readDateTime : Value → Except ConversionError DateTime
  | .dateTime t => .ok t
  | .date d => .ok (.ofDate d)
  | .text s =>
    match timeOfText? (Text.trim s).toList with
    | some t => .ok t
    | none => .error (.parse s "NaiveDateTime" .malformed)
  | v => .error (mismatch "NaiveDateTime" v)

/-- The date of a value; a time loses its clock. -/
def readDate : Value → Except ConversionError Date
  | .date d => .ok d
  | .dateTime t => .ok t.date
  | .text s =>
    let chars := (Text.trim s).toList
    match (Calendar.readDate? chars).or ((timeOfText? chars).map DateTime.date) with
    | some d => .ok d
    | none => .error (.parse s "NaiveDate" .notDate)
  | v => .error (mismatch "NaiveDate" v)

/-- The identifier of a value. -/
def readUuid : Value → Except ConversionError Uuid
  | .uuid u => .ok u
  | .text s =>
    match Uuid.ofChars? (Text.trim s).toList with
    | some u => .ok u
    | none => .error (.parse s "Uuid" .malformed)
  | .bytes bs =>
    match Uuid.ofBytes? bs with
    | some u => .ok u
    | none => .error (.parse "<bytes>" "Uuid" .malformed)
  | v => .error (mismatch "Uuid" v)

/-- The JSON of a value. -/
def readJson : Value → Except ConversionError Json
  | .json j => .ok j
  | .text s =>
    match Json.read? s with
    | some j => .ok j
    | none => .error (.parse s "serde_json::Value" .malformed)
  | v => .error (mismatch "serde_json::Value" v)

/-- The bytes of a value; those of a text are its UTF-8 form. -/
def readBytes : Value → Except ConversionError (List UInt8)
  | .bytes bs => .ok bs
  | .text s => .ok (Text.Utf8.encode s)
  | v => .error (mismatch "Vec<u8>" v)

/-- An error that names `target` where nothing was given. -/
def retarget (target : String) : ConversionError → ConversionError
  | .empty _ => .empty target
  | e => e

/-- The value as one of the type. -/
def read : (b : BaseType) → Value → Except ConversionError b.Carrier
  | int t, v => readInt t v
  | single, v => ((readDouble v).map Float.toFloat32).mapError (retarget "f32")
  | double, v => readDouble v
  | bool, v => readBool v
  | text, v => readText v
  | char, v => readChar v
  | date, v => readDate v
  | dateTime, v => readDateTime v
  | utc, v => (readDateTime v).mapError (retarget "DateTime<Utc>")
  | uuid, v => readUuid v
  | json, v => readJson v
  | bytes, v => readBytes v
  | value, v => .ok v

/-- The value of an integer: narrow types become `int`, wide ones `bigint`, and what is beyond the
signed 64 bits becomes text. -/
def ofInt : (t : IntType) → t.Carrier → Value
  | .i8, n => .int (IntType.widen .i32 n)
  | .i16, n => .int (IntType.widen .i32 n)
  | .i32, n => .int n
  | .u8, n => .int (IntType.widen .i32 n)
  | .u16, n => .int (IntType.widen .i32 n)
  | .i64, n => .bigint n
  | .u32, n => .bigint (IntType.widen .i64 n)
  | .u64, n | .usize, n =>
    match IntType.i64.ofInt? n.val with
    | some m => .bigint m
    | none => .text (Text.intText n.val)

/-- What a field holds, as a value. -/
def write : (b : BaseType) → b.Carrier → Value
  | int t, n => ofInt t n
  | single, x => .double (Float32.toFloat x)
  | double, x => .double x
  | bool, b => .bool b
  | text, s => .text s
  | char, c => .char c
  | date, d => .date d
  | dateTime, t => .dateTime t
  | utc, t => .dateTime t
  | uuid, u => .uuid u
  | json, j => .json j
  | bytes, bs => .bytes bs
  | value, v => v

end BaseType

namespace FieldType

/-- The type without the leave to hold nothing. -/
def base : FieldType → BaseType
  | required b => b
  | optional b => b

/-- What fields of the type hold. -/
def Carrier : FieldType → Type
  | required b => b.Carrier
  | optional b => Option b.Carrier

/-- The type's name in error messages. -/
def name (t : FieldType) : String := t.base.name

/-- Null may be assigned: the field is optional or holds any value. -/
def acceptsNull : FieldType → Bool
  | required b => b = .value
  | optional _ => true

/-- What a field holds before anything is assigned. -/
def default : (t : FieldType) → t.Carrier
  | required b => b.default
  | optional _ => none

/-- The value as one of the type; null is nothing where the field is optional. -/
def read : (t : FieldType) → Value → Except ConversionError t.Carrier
  | required b, v => b.read v
  | optional b, v => if v.isNull then .ok none else (b.read v).map some

/-- What a field holds, as a value; nothing is null. -/
def write : (t : FieldType) → t.Carrier → Value
  | required b, x => b.write x
  | optional _, none => .null
  | optional b, some x => b.write x

end FieldType

end SqlRecords
