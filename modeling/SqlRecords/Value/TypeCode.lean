import SqlRecords.Calendar.ZonedText
import SqlRecords.Value.Basic
import SqlRecords.Value.Error

/-!
# Type codes

One letter says how a text from a request is turned into a value.
-/

namespace SqlRecords

/-- The types that request values may name. -/
inductive TypeCode where
  | text | integer | long | number | date | boolean | character
  deriving DecidableEq, Repr

namespace TypeCode

/-- Every code, in the order of the documentation. -/
def all : List TypeCode := [text, integer, long, number, date, boolean, character]

/-- The letter of a code. -/
def code : TypeCode → String
  | text => "S"
  | integer => "I"
  | long => "L"
  | number => "N"
  | date => "D"
  | boolean => "B"
  | character => "C"

/-- The code of a letter; small letters are none. -/
def ofCode? (s : String) : Option TypeCode := all.find? (·.code = s)

/-- The code of a letter, or the error that names it. -/
def ofCode (s : String) : Except ConversionError TypeCode :=
  match ofCode? s with
  | some c => .ok c
  | none => .error (.parse s "type code" .unknownCode)

/-- The type's name in error messages. -/
def target : TypeCode → String
  | text => "string"
  | integer => "integer"
  | long => "long"
  | number => "number"
  | date => "date"
  | boolean => "boolean"
  | character => "character"

/-- The words for yes. -/
def trueWords : List String := ["true", "yes", "y", "on", "1"]

/-- The words for no. -/
def falseWords : List String := ["false", "no", "n", "off", "0"]

/-- A date, a time with a blank or a `T` before the clock, or a time in internet form. -/
def dateOfText? (s : List Char) : Option Value :=
  ((Calendar.readDate? s).map Value.date).or <|
    ((Calendar.readDateTime? Calendar.spacedPattern s).or <|
      (Calendar.readDateTime? Calendar.joinedPattern s).or
        (Calendar.readZoned? s)).map Value.dateTime

/-- An integer of the range of `t`. -/
def parseInteger (t : IntType) (s : List Char) : Except ReadingFault t.Carrier := do
  let n ← (Text.readInteger t.lo t.hi s).mapError ReadingFault.integer
  match t.ofInt? n with
  | some n => .ok n
  | none => .error .outOfRange

/-- The value of a text without blanks around it. -/
def parseTrimmed (c : TypeCode) (s : List Char) : Except ReadingFault Value :=
  match c with
  | text => .ok (.text (String.ofList s))
  | integer => (parseInteger .i32 s).map Value.int
  | long => (parseInteger .i64 s).map Value.bigint
  | number => ((Text.readDouble s).map Value.double).mapError ReadingFault.double
  | boolean =>
    let word := (String.ofList s).toLower
    if word ∈ trueWords then .ok (.bool true)
    else if word ∈ falseWords then .ok (.bool false)
    else .error .notYesOrNo
  | character =>
    match s with
    | [c] => .ok (.char c)
    | _ => .error .notOneCharacter
  | date =>
    match dateOfText? s with
    | some v => .ok v
    | none => .error .notDateOrTime

/-- The value of a request text; only a string keeps its blanks and may consist of them. -/
def parse (c : TypeCode) (raw : String) : Except ConversionError Value :=
  if c = text then .ok (.text raw)
  else if Text.blank raw then .error (.empty c.target)
  else (parseTrimmed c (Text.trim raw).toList).mapError fun fault => .parse raw c.target fault

end TypeCode

end SqlRecords
