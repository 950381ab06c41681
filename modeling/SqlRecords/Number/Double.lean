/-!
# Doubles as exact numbers

A finite double is a sign, a natural significand and a power of two. Everything that is decided
about a double (whether it is integral, which decimal it is written as) is decided on these.
-/

namespace SqlRecords.Double

/-- The number `±significand · 2 ^ exponent`. -/
structure Parts where
  negative : Bool
  significand : Nat
  exponent : Int
  deriving DecidableEq, Repr

/-- Sign, significand and exponent of a finite double. -/
def parts (x : Float) : Parts :=
  let bits := x.toBits.toNat
  let biased : Nat := bits / 0x10000000000000 % 0x800
  let fraction := bits % 0x10000000000000
  let negative := decide (0x8000000000000000 ≤ bits)
  if biased = 0 then ⟨negative, fraction, -1074⟩
  else ⟨negative, fraction + 0x10000000000000, (biased : Int) - 1075⟩

/-- The size of the number when it is integral. -/
def Parts.natAbs? (p : Parts) : Option Nat :=
  if 0 ≤ p.exponent then some (p.significand * Nat.pow 2 p.exponent.toNat)
  else
    let unit := Nat.pow 2 p.exponent.natAbs
    if p.significand % unit = 0 then some (p.significand / unit) else none

/-- The integer that a double equals, if it equals one. -/
def toInt? (x : Float) : Option Int :=
  if x.isFinite then
    (parts x).natAbs?.map fun n => if (parts x).negative then -(n : Int) else n
  else none

/-- The positive infinity. -/
def infinity : Float := Float.ofBits 0x7FF0000000000000

/-- A number that is none. -/
def nan : Float := Float.ofBits 0x7FF8000000000000

/-- `x`, or its opposite when `negative` holds. -/
def signed (negative : Bool) (x : Float) : Float := if negative then -x else x

/-- The double nearest to `digits · 10 ^ exponent`; numbers far beyond either end of the range
become infinite or zero without being computed. -/
def ofDecimal (digits : Nat) (exponent : Int) : Float :=
  let magnitude := (Nat.toDigits 10 digits).length + exponent
  if digits = 0 ∨ magnitude < -400 then 0
  else if 400 < magnitude then infinity
  else Float.ofScientific digits (decide (exponent < 0)) exponent.natAbs

end SqlRecords.Double
