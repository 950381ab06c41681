import SqlRecords.Number.Integer
import SqlRecords.Number.Double

/-!
# Reading doubles

A double is read from an optional sign and either a name (`inf`, `infinity`, `nan`, in any case)
or digits with an optional point and an optional exponent. At least one digit stands before or
after the point. The result is the nearest double.
-/

namespace SqlRecords.Text

/-- Why a text is no double. -/
inductive DoubleFault where
  | empty | invalid
  deriving DecidableEq, Repr

/-- The reason as error messages give it. -/
def DoubleFault.message : DoubleFault → String
  | empty => "cannot parse float from empty string"
  | invalid => "invalid float literal"

/-- A character is a decimal digit. -/
def isDigit (c : Char) : Bool := (digit? c).isSome

/-- The digits that a text starts with, and the rest. -/
def leadingDigits (s : List Char) : List Char × List Char :=
  (s.takeWhile isDigit, s.dropWhile isDigit)

/-- The number that a run of digits stands for. -/
def natOfDigits (ds : List Char) : Nat :=
  ds.foldl (fun n c => 10 * n + (digit? c).getD 0) 0

/-- The sign that a text starts with, and the rest. -/
def leadingSign : List Char → Bool × List Char
  | '+' :: rest => (false, rest)
  | '-' :: rest => (true, rest)
  | s => (false, s)

/-- The exponent that ends a number: nothing, or `e`, a sign and digits. -/
def readExponent : List Char → Option Int
  | [] => some 0
  | c :: rest =>
    if c.toLower = 'e' then
      let (negative, rest) := leadingSign rest
      let (ds, rest) := leadingDigits rest
      if ds.isEmpty || !rest.isEmpty then none
      else some (if negative then -(natOfDigits ds : Int) else natOfDigits ds)
    else none

/-- The digits after the point, if there is one, and the rest. -/
def readFraction : List Char → List Char × List Char
  | '.' :: rest => leadingDigits rest
  | s => ([], s)

/-- The number without its sign. -/
def readUnsigned (s : List Char) : Option Float :=
  let name := s.map Char.toLower
  if name = "inf".toList ∨ name = "infinity".toList then some Double.infinity
  else if name = "nan".toList then some Double.nan
  else
    let (whole, rest) := leadingDigits s
    let (fraction, rest) := readFraction rest
    if whole.isEmpty && fraction.isEmpty then none
    else (readExponent rest).map fun e =>
      Double.ofDecimal (natOfDigits (whole ++ fraction)) (e - fraction.length)

/-- The double that a text stands for. -/
def readDouble (s : List Char) : Except DoubleFault Float :=
  if s.isEmpty then .error .empty
  else
    let (negative, rest) := leadingSign s
    match readUnsigned rest with
    | some x => .ok (Double.signed negative x)
    | none => .error .invalid

end SqlRecords.Text
