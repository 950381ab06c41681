import SqlRecords.Calendar.DateTime
import SqlRecords.Number.DoubleText
import SqlRecords.Text.Blank

/-!
# Reading dates by pattern

A pattern is a list of items. Numbers may stand behind blanks and have fewer digits than they are
written with; a year may carry a sign and then has any number of digits. The text has to be used up.
-/

namespace SqlRecords.Calendar

/-- What a pattern has read so far. -/
structure Fields where
  year : Int := 0
  month : Nat := 1
  day : Nat := 1
  hour : Nat := 0
  minute : Nat := 0
  second : Nat := 0
  nanos : Nat := 0

namespace Fields

/-- The date of the fields. -/
def toDate? (f : Fields) : Option Date := Date.ofParts? f.year f.month f.day

/-- Date and time of the fields. -/
def toDateTime? (f : Fields) : Option DateTime := do
  let date ← f.toDate?
  let time ← Time.ofClock? f.hour f.minute f.second f.nanos
  some ⟨date, time⟩

end Fields

/-- Part of a pattern. -/
inductive Item where
  | year | month | day | hour | minute | second
  /-- Nothing, or a point and digits; digits beyond the ninth count nothing. -/
  | fraction
  /-- Any number of blanks, also none. -/
  | blanks
  | literal (c : Char)

/-- One to `width` digits. -/
def readNumber (width : Nat) (s : List Char) : Option (Nat × List Char) :=
  let ds := (s.takeWhile Text.isDigit).take width
  if ds.isEmpty then none else some (Text.natOfDigits ds, s.drop ds.length)

/-- A year: up to four digits, or a sign and any number of them. -/
def readYear (s : List Char) : Option (Int × List Char) :=
  match s with
  | '-' :: rest => (readNumber rest.length rest).map fun (n, rest) => (-(n : Int), rest)
  | '+' :: rest => (readNumber rest.length rest).map fun (n, rest) => (n, rest)
  | s => (readNumber 4 s).map fun (n, rest) => (n, rest)

/-- The nanoseconds that the digits of a fraction stand for: nine digits count. -/
def nanosOfDigits (ds : List Char) : Nat := Text.natOfDigits (List.rightpad 9 '0' (ds.take 9))

/-- A fraction, if a point stands there. -/
def readFraction : List Char → Option (Nat × List Char)
  | '.' :: rest =>
    let (ds, rest) := Text.leadingDigits rest
    if ds.isEmpty then none else some (nanosOfDigits ds, rest)
  | s => some (0, s)

/-- One item at the start of `s`. -/
def Item.read (f : Fields) (s : List Char) : Item → Option (Fields × List Char)
  | .year => (readYear (Text.trimStart s)).map fun (n, rest) => ({ f with year := n }, rest)
  | .month => (readNumber 2 (Text.trimStart s)).map fun (n, rest) => ({ f with month := n }, rest)
  | .day => (readNumber 2 (Text.trimStart s)).map fun (n, rest) => ({ f with day := n }, rest)
  | .hour => (readNumber 2 (Text.trimStart s)).map fun (n, rest) => ({ f with hour := n }, rest)
  | .minute => (readNumber 2 (Text.trimStart s)).map fun (n, rest) => ({ f with minute := n }, rest)
  | .second => (readNumber 2 (Text.trimStart s)).map fun (n, rest) => ({ f with second := n }, rest)
  | .fraction => (readFraction s).map fun (n, rest) => ({ f with nanos := n }, rest)
  | .blanks => some (f, Text.trimStart s)
  | .literal c =>
    match s with
    | [] => none
    | d :: rest => if c = d then some (f, rest) else none

/-- The fields of a text that follows the pattern to its end. -/
def readFields (f : Fields) : List Item → List Char → Option Fields
  | [], [] => some f
  | [], _ :: _ => none
  | item :: items, s => (item.read f s).bind fun (f, rest) => readFields f items rest

/-- Year, month and day with dashes. -/
def datePattern : List Item := [.year, .literal '-', .month, .literal '-', .day]

/-- Hours, minutes and seconds with colons. -/
def clockPattern : List Item := [.hour, .literal ':', .minute, .literal ':', .second]

/-- Date and time with a blank between. -/
def spacedPattern : List Item := datePattern ++ .blanks :: clockPattern

/-- Date and time with a `T` between. -/
def joinedPattern : List Item := datePattern ++ .literal 'T' :: clockPattern

/-- The date of a text in the form of `datePattern`. -/
def readDate? (s : List Char) : Option Date := (readFields {} datePattern s).bind Fields.toDate?

/-- The date and time of a text in the form of `pattern`. -/
def readDateTime? (pattern : List Item) (s : List Char) : Option DateTime :=
  (readFields {} pattern s).bind Fields.toDateTime?

/-- The date of a text in the form of `Date.text`, where blanks may stand between the items. -/
def readIsoDate? (s : List Char) : Option Date :=
  (readFields {} [.year, .blanks, .literal '-', .month, .blanks, .literal '-', .day, .blanks]
    s).bind Fields.toDate?

/-- The date and time of a text in the form of `DateTime.isoText`, where blanks may stand between
the items. -/
def readIsoDateTime? (s : List Char) : Option DateTime :=
  readDateTime? [.year, .blanks, .literal '-', .month, .blanks, .literal '-', .day, .blanks,
    .literal 'T', .hour, .blanks, .literal ':', .minute, .blanks, .literal ':', .second,
    .fraction, .blanks] s

end SqlRecords.Calendar
