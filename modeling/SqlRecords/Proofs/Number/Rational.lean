import Mathlib.Algebra.Order.Field.Power
import Mathlib.Data.Rat.Cast.Order
import Mathlib.Tactic.NormNum.Inv
import Mathlib.Tactic.NormNum.Pow
import Mathlib.Tactic.Ring
import SqlRecords.Number.Double

/-!
# Doubles as rational numbers

The bits of a finite double give it a rational number. `toInt?_eq_some_iff` shows that the integer
which is made of a double is this number.
-/

namespace SqlRecords.Double

/-- The eleven bits behind the sign. -/
def exponentField (x : Float) : Nat := x.toBits.toNat / 2 ^ 52 % 2 ^ 11

/-- The last 52 bits. -/
def fractionField (x : Float) : Nat := x.toBits.toNat % 2 ^ 52

def sign (x : Float) : ℚ := if 2 ^ 63 ≤ x.toBits.toNat then -1 else 1

/-- The number that a double stands for: a significand from one up to two, or below one where the
exponent field is zero. Infinities and what is no number stand for none. -/
def rational? (x : Float) : Option ℚ :=
  if exponentField x = 2047 then none
  else if exponentField x = 0 then
    some (sign x * (fractionField x / 2 ^ 52 * 2 ^ (-1022 : ℤ)))
  else some (sign x * ((1 + fractionField x / 2 ^ 52) * 2 ^ ((exponentField x : ℤ) - 1023)))

/-- The number without its sign. -/
def Parts.magnitude (p : Parts) : ℚ := p.significand * 2 ^ p.exponent

/-! ### Finite doubles -/

open Float.Model Float.Model.UnpackedFloat in
theorem isFinite_iff (x : Float) : x.isFinite = true ↔ exponentField x ≠ 2047 := by
  have filled : @unpackExponent .binary64 x.toModel.toBits.toBitVec = -1#11 ↔
      exponentField x = 2047 := by
    have field : exponentField x = x.toModel.toBits.toNat / 2 ^ 52 % 2 ^ 11 := rfl
    rw [← BitVec.toNat_inj, field]
    simp [unpackExponent, Nat.shiftRight_eq_div_pow]
  rw [ne_eq, ← filled]
  change (UnpackedFloat.unpack Format.binary64 x.toModel.toBits.toBitVec).isFinite = true ↔ _
  -- The unpacking has a branch for the greatest exponent field, and only this one is not finite.
  delta UnpackedFloat.unpack
  dsimp only
  generalize @unpackExponent .binary64 x.toModel.toBits.toBitVec = exponent
  by_cases infinite : exponent = -1#11
  · rw [if_pos infinite]
    refine iff_of_false ?_ (not_not_intro infinite)
    split <;> exact Bool.false_ne_true
  · rw [if_neg infinite]
    refine iff_of_true ?_ infinite
    by_cases low : exponent = 0#11
    · rw [if_pos low]
      by_cases empty : @unpackMantissa .binary64 x.toModel.toBits.toBitVec = 0#52
      · rw [dif_pos empty]
        rfl
      · rw [dif_neg empty]
        rfl
    · rw [if_neg low]
      rfl

def signBit (x : Float) : Bool := decide (2 ^ 63 ≤ x.toBits.toNat)

theorem parts_eq (x : Float) : parts x =
    if exponentField x = 0 then ⟨signBit x, fractionField x, -1074⟩
    else ⟨signBit x, fractionField x + 2 ^ 52, (exponentField x : ℤ) - 1075⟩ := rfl

theorem sign_eq (x : Float) : sign x = if (parts x).negative then -1 else 1 := by
  have negative : (parts x).negative = signBit x := by
    rw [parts_eq]
    split <;> rfl
  simp only [sign, negative, signBit, decide_eq_true_eq]

theorem two_zpow_sub_places (e : ℤ) : (2 : ℚ) ^ (e - 52) = 2 ^ e / 2 ^ 52 :=
  zpow_sub₀ two_ne_zero e 52

theorem magnitude_of_low {x : Float} (low : exponentField x = 0) :
    (parts x).magnitude = fractionField x / 2 ^ 52 * 2 ^ (-1022 : ℤ) := by
  have exponent : (-1074 : ℤ) = -1022 - 52 := rfl
  rw [parts_eq, if_pos low, Parts.magnitude, exponent, two_zpow_sub_places]
  ring

theorem magnitude_of_not_low {x : Float} (high : exponentField x ≠ 0) :
    (parts x).magnitude =
      (1 + fractionField x / 2 ^ 52) * 2 ^ ((exponentField x : ℤ) - 1023) := by
  have exponent : (exponentField x : ℤ) - 1075 = exponentField x - 1023 - 52 := by ring
  rw [parts_eq, if_neg high, Parts.magnitude, exponent, two_zpow_sub_places]
  push_cast
  ring

theorem rational?_eq (x : Float) :
    rational? x = if x.isFinite then some (sign x * (parts x).magnitude) else none := by
  rw [rational?]
  by_cases infinite : exponentField x = 2047
  · rw [if_pos infinite, if_neg ((isFinite_iff x).not.mpr (not_not_intro infinite))]
  rw [if_neg infinite, if_pos ((isFinite_iff x).mpr infinite)]
  by_cases low : exponentField x = 0
  · rw [if_pos low, magnitude_of_low low]
  · rw [if_neg low, magnitude_of_not_low low]

/-! ### Integral doubles -/

theorem Parts.magnitude_nonneg (p : Parts) : 0 ≤ p.magnitude :=
  mul_nonneg (Nat.cast_nonneg _) (zpow_nonneg zero_le_two _)

theorem quotient_eq_some_iff {unit : ℕ} (positive : 0 < unit) (m n : ℕ) :
    (if m % unit = 0 then some (m / unit) else none) = some n ↔ m = n * unit := by
  rw [Option.ite_none_right_eq_some, Option.some_inj]
  constructor
  · rintro ⟨divides, rfl⟩
    exact (Nat.div_mul_cancel (Nat.dvd_of_mod_eq_zero divides)).symm
  · rintro rfl
    exact ⟨Nat.mul_mod_left n unit, Nat.mul_div_cancel n positive⟩

theorem Parts.natAbs?_eq_some_iff (p : Parts) (n : ℕ) :
    p.natAbs? = some n ↔ p.magnitude = n := by
  rw [natAbs?, magnitude]
  by_cases whole : 0 ≤ p.exponent
  · obtain ⟨k, same⟩ := Int.eq_ofNat_of_zero_le whole
    rw [if_pos whole, same, Option.some_inj, Int.toNat_natCast, zpow_natCast]
    exact_mod_cast Iff.rfl
  · obtain ⟨k, same⟩ : ∃ k : ℕ, p.exponent = -k := ⟨p.exponent.natAbs, by omega⟩
    have size : p.exponent.natAbs = k := by omega
    have scaled : (p.significand : ℚ) * 2 ^ p.exponent = n ↔ p.significand = n * 2 ^ k := by
      rw [same, zpow_neg, zpow_natCast, ← div_eq_mul_inv, div_eq_iff (pow_ne_zero k two_ne_zero)]
      exact_mod_cast Iff.rfl
    rw [if_neg whole, scaled, size]
    exact quotient_eq_some_iff (Nat.two_pow_pos k) p.significand n

theorem toInt?_eq (x : Float) :
    toInt? x =
      if x.isFinite then
        (parts x).natAbs?.map fun n : ℕ => if (parts x).negative then -(n : ℤ) else n
      else none := by
  rw [toInt?]
  cases (parts x).natAbs? <;> rfl

theorem exists_natCast_iff {q : ℚ} (nonneg : 0 ≤ q) (m : ℤ) :
    (∃ n : ℕ, q = n ∧ (n : ℤ) = m) ↔ q = m := by
  constructor
  · rintro ⟨n, same, rfl⟩
    exact_mod_cast same
  · intro same
    have positive : 0 ≤ m := by
      rw [same] at nonneg
      exact_mod_cast nonneg
    obtain ⟨n, rfl⟩ := Int.eq_ofNat_of_zero_le positive
    exact ⟨n, by exact_mod_cast same, rfl⟩

/-- The integer that is made of a double is the number that the double stands for. -/
theorem toInt?_eq_some_iff (x : Float) (m : ℤ) :
    toInt? x = some m ↔ rational? x = some (m : ℚ) := by
  rw [toInt?_eq, rational?_eq]
  by_cases finite : x.isFinite = true
  · have size := exists_natCast_iff (parts x).magnitude_nonneg
    rw [if_pos finite, if_pos finite, Option.map_eq_some_iff, Option.some_inj, sign_eq]
    simp only [Parts.natAbs?_eq_some_iff]
    -- The sign goes to the side of the integer, where the magnitude is a natural number.
    by_cases negative : (parts x).negative = true
    · simp only [negative, if_true, neg_eq_iff_eq_neg, neg_one_mul, size]
      rw [Int.cast_neg]
    · simp only [negative, one_mul, size, if_false, Bool.false_eq_true]
  · rw [if_neg finite, if_neg finite]
    exact iff_of_false nofun nofun

end SqlRecords.Double
