import SqlRecords.Json.Basic
import SqlRecords.Number.DoubleText

/-!
# Numbers in JSON text

Integers that fit 64 bits stay integers. Any other number is a double: its digits are gathered
into 64 bits, and the result is scaled by powers of ten, each step rounded. So a number of many
digits may differ from the nearest double in its last place.
-/

namespace SqlRecords.Json

/-- The digits gathered while they fit 64 bits, and those that are left over. -/
def gather (n : Nat) : List Char → Nat × List Char
  | [] => (n, [])
  | c :: rest =>
    let next := 10 * n + (Text.digit? c).getD 0
    if next ≤ IntType.u64.hi then gather next rest else (n, c :: rest)

/-- `x` divided `count` times by the greatest power of ten, as long as anything is left. -/
def scaleDown (x : Float) : Nat → Float
  | 0 => x
  | count + 1 => if x == 0 then x else scaleDown (x / Float.ofScientific 1 false 308) count

/-- `n · 10 ^ exponent`, computed in steps; none when it is beyond the doubles. -/
def scaled (n : Nat) (exponent : Int) : Option Float :=
  let x := Float.ofNat n
  if n = 0 then some x
  else if 308 < exponent then none
  else if 0 ≤ exponent then
    let y := x * Float.ofScientific 1 false exponent.toNat
    if y.isInf then none else some y
  else
    let places := exponent.natAbs
    let steps := (places - 1) / 308
    let y := scaleDown x steps
    some (if y == 0 then y else y / Float.ofScientific 1 false (places - 308 * steps))

/-- The exponent behind a number, if there is one; an exponent beyond 32 bits is no exponent but
decides the number at once. -/
def withExponent (n : Nat) (exponent : Int) : List Char → Option Float
  | [] => scaled n exponent
  | c :: rest =>
    if c.toLower = 'e' then
      let (negative, rest) := Text.leadingSign rest
      let (ds, rest) := Text.leadingDigits rest
      let e := Text.natOfDigits ds
      if ds.isEmpty || !rest.isEmpty then none
      else if e ≤ IntType.i32.hi then scaled n (if negative then exponent - e else exponent + e)
      else if negative || n = 0 then some 0
      else none
    else none

/-- The double of whole digits, gathered into `n` with `dropped` left over, and what follows. -/
def readFractional (n dropped : Nat) : List Char → Option Float
  | '.' :: rest =>
    let (ds, rest) := Text.leadingDigits rest
    if ds.isEmpty then none
    else
      let (n, left) := gather n ds
      withExponent n (dropped - ((ds.length - left.length : Nat) : Int)) rest
  | rest => withExponent n dropped rest

/-- The integer of a sign and a size of at most 64 bits; minus zero and what is below the
integers are doubles. -/
def signedInteger (negative : Bool) (n : Nat) : Json :=
  if negative then
    if n = 0 then .number (-0)
    else match Integer.ofInt? (-n) with
      | some i => .integer i
      | none => .number (-Float.ofNat n)
  else match Integer.ofInt? n with
    | some i => .integer i
    | none => .number (Float.ofNat n)

/-- The number that a text stands for; its first digit is zero only if it is the only one. -/
def readNumber (s : List Char) : Option Json :=
  let (negative, s) := match s with
    | '-' :: rest => (true, rest)
    | s => (false, s)
  let (whole, rest) := Text.leadingDigits s
  if whole.isEmpty || (whole.head? == some '0' && 1 < whole.length) then none
  else
    let (n, left) := gather 0 whole
    if left.isEmpty && rest.isEmpty then some (signedInteger negative n)
    else (readFractional n left.length rest).map fun x => .number (Double.signed negative x)

end SqlRecords.Json
