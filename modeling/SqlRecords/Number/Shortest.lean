import SqlRecords.Number.Double

/-!
# The shortest decimal that reads back

`shortest` finds the decimal with the fewest digits among those that round to a given double, and
of these the nearest one. A `NumberStyle` holds the decisions about how such a decimal is laid out.
-/

namespace SqlRecords.Double

/-- The number `digits · 10 ^ exponent`. -/
structure Decimal where
  digits : Nat
  exponent : Int
  deriving DecidableEq, Repr

/-- What becomes of a number halfway between two decimals. -/
inductive Tie where
  | up | even
  deriving DecidableEq, Repr

/-- The interval of numbers that round to one double, in quarters of a unit `2 ^ exponent`: the
value is `4 · significand`, and the ends belong to it when the significand is even. -/
structure Neighbourhood where
  significand : Nat
  below : Nat
  exponent : Int

/-- The numbers that round to `p`: they reach halfway to its neighbours, and the lower neighbour
of a power of two is nearer. -/
def Parts.neighbourhood (p : Parts) : Neighbourhood :=
  let nearer := p.significand = 0x10000000000000 ∧ -1074 < p.exponent
  ⟨p.significand, if nearer then 1 else 2, p.exponent - 2⟩

/-- `digits · 10 ^ k` lies in the interval, with `10 ^ k / 2 ^ exponent = a / b`. -/
def Neighbourhood.holds (n : Neighbourhood) (a b digits : Nat) : Bool :=
  let low := (4 * n.significand - n.below) * b
  let high := (4 * n.significand + 2) * b
  if n.significand % 2 = 0 then low ≤ digits * a && digits * a ≤ high
  else low < digits * a && digits * a < high

/-- The multiple of `10 ^ k` that rounds to the double, the nearer one if two do. -/
def Neighbourhood.onGrid (n : Neighbourhood) (tie : Tie) (k : Int) : Option Decimal :=
  let a := Nat.pow 10 k.toNat * Nat.pow 2 (-n.exponent).toNat
  let b := Nat.pow 10 (-k).toNat * Nat.pow 2 n.exponent.toNat
  let value := 4 * n.significand * b
  let down := value / a
  let nearest :=
    if 2 * value < (2 * down + 1) * a then down
    else if (2 * down + 1) * a < 2 * value then down + 1
    else match tie with
      | .up => down + 1
      | .even => if down % 2 = 0 then down else down + 1
  match n.holds a b down, n.holds a b (down + 1) with
  | true, true => some ⟨nearest, k⟩
  | true, false => some ⟨down, k⟩
  | false, true => some ⟨down + 1, k⟩
  | false, false => none

/-- A power of ten above the number, and by little: `30103 / 100000` is the logarithm of two. -/
def Parts.ceilingPower (p : Parts) : Int :=
  (p.exponent + p.significand.log2 + 1) * 30103 / 100000 + 2

/-- The shortest decimal that rounds to `p`; zero is written with one digit. Seventeen digits
always suffice, so the coarsest of twenty-two grids below the number is found. -/
def Parts.shortest (p : Parts) (tie : Tie) : Decimal :=
  if p.significand = 0 then ⟨0, 0⟩
  else
    ((List.range 22).findSome? fun (i : Nat) =>
      p.neighbourhood.onGrid tie (p.ceilingPower - i)).getD ⟨0, 0⟩

/-- How a double is laid out as text. -/
structure NumberStyle where
  /-- The powers of ten of the first digit that are written without an exponent. -/
  positional : Int → Bool
  /-- Whole numbers end in a point and a zero. -/
  wholePoint : Bool
  tie : Tie

/-- The digits `ds` of a decimal whose first digit counts `10 ^ lead`, around a point. -/
def NumberStyle.positionalText (style : NumberStyle) (ds : List Char) (lead : Int) : List Char :=
  if lead < 0 then '0' :: '.' :: List.replicate (-lead - 1).toNat '0' ++ ds
  else
    let whole := ds.take (lead.toNat + 1)
    let fraction := ds.drop (lead.toNat + 1)
    let filled := whole ++ List.replicate (lead.toNat + 1 - whole.length) '0'
    if fraction.isEmpty then filled ++ (if style.wholePoint then ['.', '0'] else [])
    else filled ++ '.' :: fraction

/-- The digits `ds` with the point after the first one and the exponent behind `e`. -/
def scientificText (ds : List Char) (lead : Int) : List Char :=
  let mantissa := match ds with
    | [] => []
    | [d] => [d]
    | d :: more => d :: '.' :: more
  let exponent := Nat.toDigits 10 lead.natAbs
  mantissa ++ 'e' :: (if lead < 0 then '-' else '+') :: exponent

/-- The text of a decimal. -/
def NumberStyle.decimalText (style : NumberStyle) (d : Decimal) : List Char :=
  let ds := Nat.toDigits 10 d.digits
  let lead := d.exponent + ds.length - 1
  if style.positional lead then style.positionalText ds lead else scientificText ds lead

/-- The text of a double: its shortest decimal after its sign. -/
def NumberStyle.text (style : NumberStyle) (x : Float) : String :=
  if x.isNaN then "NaN"
  else
    let p := parts x
    let size := if x.isFinite then style.decimalText (p.shortest style.tie) else "inf".toList
    String.ofList (if p.negative then '-' :: size else size)

/-- All digits are written out, and a whole number has no point. -/
def plain : NumberStyle := ⟨fun _ => true, false, .up⟩

end SqlRecords.Double
