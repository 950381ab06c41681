import SqlRecords.Calendar.Pattern
import SqlRecords.Text.Pieces

/-!
# Times with an offset

The internet form of a time (RFC 3339): every field has exactly its digits, a letter `T` or a
blank separates date and time, and `Z` or a signed offset ends the text. The time is taken to UTC.
-/

namespace SqlRecords.Calendar

/-- Exactly `width` digits. -/
def readExactly (width : Nat) (s : List Char) : Option (Nat × List Char) :=
  let ds := s.take width
  if ds.length = width ∧ ds.all Text.isDigit then some (Text.natOfDigits ds, s.drop width)
  else none

/-- What follows the character `c`. -/
def readLiteral (c : Char) (s : List Char) : Option (List Char) := Text.afterLead [c] s

/-- The minutes east of UTC, and the rest: `Z`, or a sign, two digits, a colon and two digits. -/
def readOffset : List Char → Option (Int × List Char)
  | [] => none
  | c :: rest =>
    if c = 'Z' ∨ c = 'z' then some (0, rest)
    else if c = '+' ∨ c = '-' ∨ c = Char.ofNat 0x2212 then do
      let (hours, rest) ← readExactly 2 rest
      let rest ← readLiteral ':' rest
      let (minutes, rest) ← readExactly 2 rest
      if minutes < 60 ∧ hours < 24 then
        let offset : Int := hours * 60 + minutes
        some (if c = '+' then offset else -offset, rest)
      else none
    else none

/-- The UTC time of a text in internet form. -/
def readZoned? (s : List Char) : Option DateTime := do
  let (year, s) ← readExactly 4 s
  let s ← readLiteral '-' s
  let (month, s) ← readExactly 2 s
  let s ← readLiteral '-' s
  let (day, s) ← readExactly 2 s
  let s ← match s with
    | c :: rest => if c = 'T' ∨ c = 't' ∨ c = ' ' then some rest else none
    | [] => none
  let (hour, s) ← readExactly 2 s
  let s ← readLiteral ':' s
  let (minute, s) ← readExactly 2 s
  let s ← readLiteral ':' s
  let (second, s) ← readExactly 2 s
  let (nanos, s) ← readFraction s
  let (offset, s) ← readOffset s
  if s.isEmpty then
    let time ← Fields.toDateTime? ⟨year, month, day, hour, minute, second, nanos⟩
    time.toUtc? offset
  else none

end SqlRecords.Calendar
