import SqlRecords.Calendar.DateTime
import SqlRecords.Number.DoubleText
import SqlRecords.Text.Hex
import SqlRecords.Toml.Basic

/-!
# Values without quotes

A value without quotes is a truth value, a date or time, an integer in one of four bases, or a
float. Single underscores may stand between digits.
-/

namespace SqlRecords.Toml

/-! ### Numbers -/

/-- The digits of a stretch in which single underscores stand between digits. -/
def ungroup? (isDigit : Char → Bool) : List Char → Option (List Char)
  | [] => none
  | [c] => if isDigit c then some [c] else none
  | c :: '_' :: rest => if isDigit c then (ungroup? isDigit rest).map (c :: ·) else none
  | c :: rest => if isDigit c then (ungroup? isDigit rest).map (c :: ·) else none

/-- The value of digits in a base. -/
def natOfBase (base : Nat) (ds : List Char) : Nat :=
  ds.foldl (fun n c => base * n + (Text.hexValue? c).getD 0) 0

/-- The digits of a whole decimal number, which starts with zero only if it is zero. -/
def wholeDigits? (s : List Char) : Option (List Char) :=
  (ungroup? Text.isDigit s).filter fun ds => ds.head? != some '0' || ds.length = 1

/-- The integer behind the mark of a base: hexadecimal, octal or binary. -/
def readMarked? : List Char → Option Int
  | '0' :: 'x' :: s =>
    (ungroup? (fun c => (Text.hexValue? c).isSome) s).map fun ds => (natOfBase 16 ds : Int)
  | '0' :: 'o' :: s =>
    (ungroup? (fun c => '0' ≤ c ∧ c ≤ '7') s).map fun ds => (natOfBase 8 ds : Int)
  | '0' :: 'b' :: s =>
    (ungroup? (fun c => c = '0' ∨ c = '1') s).map fun ds => (natOfBase 2 ds : Int)
  | _ => none

/-- The decimal integer of a text. -/
def readDecimal? (s : List Char) : Option Int :=
  let (negative, digits) := Text.leadingSign s
  (wholeDigits? digits).map fun ds =>
    if negative then -(Text.natOfDigits ds : Int) else Text.natOfDigits ds

/-- The least integer: the one of 128 bits with a sign. -/
def leastInteger : Int := -0x80000000000000000000000000000000

/-- The greatest integer: the one of 128 bits without a sign. -/
def greatestInteger : Int := 0xFFFFFFFFFFFFFFFFFFFFFFFFFFFFFFFF

/-- The integer of a text. -/
def readInteger? (s : List Char) : Option Toml :=
  ((readMarked? s).or (readDecimal? s)).bind fun n =>
    if leastInteger ≤ n ∧ n ≤ greatestInteger then some (.integer n) else none

/-- The characters of a number before its point or its exponent, and the rest. -/
def leadingGroup (s : List Char) : List Char × List Char :=
  s.span fun c => Text.isDigit c || c = '_'

/-- The exponent at the end of a float: nothing, or `e`, a sign and digits. -/
def readExponent? : List Char → Option Int
  | [] => some 0
  | c :: rest =>
    if c = 'e' ∨ c = 'E' then
      let (negative, digits) := Text.leadingSign rest
      (ungroup? Text.isDigit digits).map fun ds =>
        if negative then -(Text.natOfDigits ds : Int) else Text.natOfDigits ds
    else none

/-- The float of digits, with a point and more digits, an exponent, or both. -/
def readDigits? (s : List Char) : Option Float := do
  let (whole, rest) := leadingGroup s
  let ds ← wholeDigits? whole
  match rest with
  | [] => none
  | '.' :: rest =>
    let (fraction, rest) := leadingGroup rest
    let more ← ungroup? Text.isDigit fraction
    let e ← readExponent? rest
    some (Double.ofDecimal (Text.natOfDigits (ds ++ more)) (e - more.length))
  | rest => (readExponent? rest).map fun e => Double.ofDecimal (Text.natOfDigits ds) e

/-- The float of a text; one beyond the finite numbers has to say so. -/
def readFloat? (s : List Char) : Option Toml :=
  let (negative, size) := Text.leadingSign s
  let x? := if size = "inf".toList then some Double.infinity
    else if size = "nan".toList then some Double.nan
    else (readDigits? size).filter Float.isFinite
  x?.map fun x => .float (Double.signed negative x)

/-! ### Dates and times -/

/-- The number of exactly `count` digits that a text starts with, and the rest. -/
def takeNumber? (count : Nat) (s : List Char) : Option (Nat × List Char) :=
  let ds := s.take count
  if ds.length = count ∧ ds.all Text.isDigit then some (Text.natOfDigits ds, s.drop count)
  else none

/-- What follows a mark at the start of a text. -/
def afterMark? (mark : Char) : List Char → Option (List Char)
  | c :: rest => if c = mark then some rest else none
  | [] => none

/-- What follows a date that exists. -/
def afterDate? (s : List Char) : Option (List Char) := do
  let (year, s) ← takeNumber? 4 s
  let (month, s) ← takeNumber? 2 (← afterMark? '-' s)
  let (day, s) ← takeNumber? 2 (← afterMark? '-' s)
  let _ ← Date.ofParts? year month day
  some s

/-- What follows the seconds of a clock time; a fraction has at least one digit. -/
def afterSeconds? (s : List Char) : Option (List Char) := do
  let (second, s) ← takeNumber? 2 s
  if second ≤ 60 then
    match s with
    | '.' :: rest =>
      let (ds, rest) := Text.leadingDigits rest
      if ds.isEmpty then none else some rest
    | s => some s
  else none

/-- What follows a clock time that exists; the seconds may be missing. -/
def afterTime? (s : List Char) : Option (List Char) := do
  let (hour, s) ← takeNumber? 2 s
  let (minute, s) ← takeNumber? 2 (← afterMark? ':' s)
  if hour ≤ 23 ∧ minute ≤ 59 then
    match s with
    | ':' :: rest => afterSeconds? rest
    | s => some s
  else none

/-- The text is nothing, or says how far a time is from UTC. -/
def isOffset : List Char → Bool
  | [] => true
  | [c] => c = 'Z' || c = 'z'
  | c :: s =>
    (c = '+' || c = '-') && Option.isSome do
      let (hour, s) ← takeNumber? 2 s
      let (minute, s) ← takeNumber? 2 (← afterMark? ':' s)
      if hour ≤ 23 ∧ minute ≤ 59 ∧ s.isEmpty then some () else none

/-- The text is a date alone. -/
def isDate (s : List Char) : Bool := afterDate? s = some []

/-- The text is a date, a time, or a date and a time. -/
def isTime (s : List Char) : Bool :=
  isDate s || afterTime? s = some [] ||
    match afterDate? s with
    | some (c :: rest) =>
      (c = 'T' || c = 't' || c = ' ') && (afterTime? rest).any isOffset
    | _ => false

/-- The value of a text without quotes. -/
def readScalar? (s : List Char) : Option Toml :=
  if s = "true".toList then some (.bool true)
  else if s = "false".toList then some (.bool false)
  else if isTime s then some (.time (String.ofList s))
  else (readInteger? s).or (readFloat? s)

end SqlRecords.Toml
