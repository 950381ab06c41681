import SqlRecords.Proofs.Number.Rational
import SqlRecords.Proofs.Value.Integers

/-!
# Integers read from doubles

A double that stands for an integer of signed 64 bits is read as this integer where it fits, and any
other double is refused, but for one: the double one above the greatest integer of signed 64 bits is
read as that one. `BaseType.readsExactly_iff` shows that this is the only double that is not read
exactly.
-/

namespace SqlRecords.BaseType

variable {B : IntType} {x : Float} {target : String} {m : ℤ}

/-- The double stands for an integer of signed 64 bits, or for the one above them. -/
def Wide (x : Float) (m : ℤ) : Prop :=
  Double.rational? x = some (m : ℚ) ∧ IntType.i64.lo ≤ m ∧ m ≤ IntType.i64.hi + 1

theorem Wide.unique {m n : ℤ} (left : Wide x m) (right : Wide x n) : m = n := by
  have same := left.1.symm.trans right.1
  exact_mod_cast Option.some.inj same

theorem readWide_of_wide (wide : Wide x m) :
    readWide target (.double x) = .ok (min m IntType.i64.hi) := by
  rw [readWide, (Double.toInt?_eq_some_iff x m).mpr wide.1]
  exact if_pos wide.2

theorem readWide_of_not_wide (other : ∀ m, ¬ Wide x m) :
    readWide target (.double x) = .error (.parse (Double.plain.text x) target .notIntegral) := by
  rw [readWide]
  cases whole : Double.toInt? x with
  | none => rfl
  | some m => exact if_neg fun within => other m ⟨(Double.toInt?_eq_some_iff x m).mp whole, within⟩

theorem readInt_of_not_wide (other : ∀ m, ¬ Wide x m) :
    readInt B (.double x) = .error (.parse (Double.plain.text x) B.name .notIntegral) := by
  rw [readInt, readWide_of_not_wide other]
  rfl

theorem readInt_of_wide_fits (wide : Wide x m)
    (fits : B.lo ≤ min m IntType.i64.hi ∧ min m IntType.i64.hi ≤ B.hi) :
    readInt B (.double x) = .ok ⟨min m IntType.i64.hi, fits⟩ := by
  rw [readInt_of_wide (readWide_of_wide wide), IntType.ofInt?_of_fits fits]

theorem readInt_of_wide_misfit (wide : Wide x m)
    (misfit : ¬ (B.lo ≤ min m IntType.i64.hi ∧ min m IntType.i64.hi ≤ B.hi)) :
    readInt B (.double x) =
      .error (.parse (Text.intText (min m IntType.i64.hi)) B.name .outOfRange) := by
  rw [readInt_of_wide (readWide_of_wide wide), IntType.ofInt?_of_not_fits misfit]

theorem readInt_double_ok_iff (b : B.Carrier) :
    readInt B (.double x) = .ok b ↔ ∃ m, Wide x m ∧ b.val = min m IntType.i64.hi := by
  by_cases whole : ∃ m, Wide x m
  · obtain ⟨m, wide⟩ := whole
    have only : (∃ n, Wide x n ∧ b.val = min n IntType.i64.hi) ↔ b.val = min m IntType.i64.hi :=
      ⟨fun ⟨n, other, same⟩ => wide.unique other ▸ same, fun same => ⟨m, wide, same⟩⟩
    rw [only]
    by_cases fits : B.lo ≤ min m IntType.i64.hi ∧ min m IntType.i64.hi ≤ B.hi
    · rw [readInt_of_wide_fits wide fits, Except.ok.injEq, Subtype.ext_iff]
      exact eq_comm
    · rw [readInt_of_wide_misfit wide fits]
      exact iff_of_false nofun fun same => fits (same ▸ b.property)
  · rw [readInt_of_not_wide (not_exists.mp whole)]
    exact iff_of_false nofun fun ⟨m, wide, _⟩ => whole ⟨m, wide⟩

theorem readInt_double_error_iff (e : ConversionError) :
    readInt B (.double x) = .error e ↔
      ((∀ m, ¬ Wide x m) ∧ e = .parse (Double.plain.text x) B.name .notIntegral) ∨
      ∃ m, Wide x m ∧ ¬ (B.lo ≤ min m IntType.i64.hi ∧ min m IntType.i64.hi ≤ B.hi) ∧
        e = .parse (Text.intText (min m IntType.i64.hi)) B.name .outOfRange := by
  constructor
  · intro failed
    by_cases whole : ∃ m, Wide x m
    · obtain ⟨m, wide⟩ := whole
      by_cases fits : B.lo ≤ min m IntType.i64.hi ∧ min m IntType.i64.hi ≤ B.hi
      · rw [readInt_of_wide_fits wide fits] at failed
        cases failed
      · rw [readInt_of_wide_misfit wide fits] at failed
        exact .inr ⟨m, wide, fits, (Except.error.inj failed).symm⟩
    · have other := not_exists.mp whole
      rw [readInt_of_not_wide other] at failed
      exact .inl ⟨other, (Except.error.inj failed).symm⟩
  · rintro (⟨other, rfl⟩ | ⟨m, wide, misfit, rfl⟩)
    · exact readInt_of_not_wide other
    · exact readInt_of_wide_misfit wide misfit

/-- Reading gives nothing but the number that the double stands for, and a double that stands for no
integer of the type is refused. -/
structure ReadsExactly (B : IntType) (x : Float) : Prop where
  same : ∀ b : B.Carrier, (int B).read (.double x) = .ok b →
    Double.rational? x = some (b.val : ℚ)
  refuses : (∀ b : B.Carrier, Double.rational? x ≠ some (b.val : ℚ)) →
    ∃ e, (int B).read (.double x) = .error e

theorem ReadsExactly.of_same (same : ∀ b : B.Carrier, readInt B (.double x) = .ok b →
    Double.rational? x = some (b.val : ℚ)) : ReadsExactly B x where
  same := same
  refuses other := by
    change ∃ e, readInt B (.double x) = .error e
    cases made : readInt B (.double x) with
    | error e => exact ⟨e, rfl⟩
    | ok b => exact absurd (same b made) (other b)

theorem ReadsExactly.not_above (exact : ReadsExactly B x)
    (above : Double.rational? x = some ((IntType.i64.hi + 1 : ℤ) : ℚ)) : B.hi < IntType.i64.hi := by
  refine Int.not_le.mp fun room => ?_
  have wide : Wide x (IntType.i64.hi + 1) := ⟨above, by decide, Int.le_refl _⟩
  have capped : min (IntType.i64.hi + 1) IntType.i64.hi = IntType.i64.hi := by decide
  have fits : B.lo ≤ IntType.i64.hi := Int.le_trans B.lo_le_zero IntType.i64.zero_le_hi
  have read := (readInt_double_ok_iff ⟨IntType.i64.hi, fits, room⟩).mpr ⟨_, wide, capped.symm⟩
  have number := exact.same _ read
  rw [above, Option.some_inj] at number
  exact absurd (Int.cast_injective number) (Int.lt_succ_self _).ne'

theorem readsExactly_of_not_above
    (clear : ¬ (Double.rational? x = some ((IntType.i64.hi + 1 : ℤ) : ℚ) ∧ IntType.i64.hi ≤ B.hi)) :
    ReadsExactly B x := by
  refine .of_same fun b read => ?_
  obtain ⟨m, wide, value⟩ := (readInt_double_ok_iff b).mp read
  -- Nothing but the number above the signed 64 bits is capped.
  by_cases above : m = IntType.i64.hi + 1
  · subst above
    have room : IntType.i64.hi ≤ B.hi := by
      have top := b.property.2
      omega
    exact absurd ⟨wide.1, room⟩ clear
  · have whole : b.val = m := by
      have within := wide.2.2
      omega
    rw [whole]
    exact wide.1

/-- A double is read as the integer of signed 64 bits that it stands for, and the one above them as
the greatest of them. It is refused as not integral if it stands for none of these, and as out of
range if what it is read as does not fit the type. So the double above the greatest integer of
signed 64 bits, read into a type with this integer, is the only one that is not read exactly. -/
theorem readsExactly_iff (B : IntType) (x : Float) :
    (∀ b : B.Carrier, (int B).read (.double x) = .ok b ↔
      ∃ m, Wide x m ∧ b.val = min m IntType.i64.hi) ∧
    (∀ e, (int B).read (.double x) = .error e ↔
      ((∀ m, ¬ Wide x m) ∧ e = .parse (Double.plain.text x) B.name .notIntegral) ∨
      ∃ m, Wide x m ∧ ¬ (B.lo ≤ min m IntType.i64.hi ∧ min m IntType.i64.hi ≤ B.hi) ∧
        e = .parse (Text.intText (min m IntType.i64.hi)) B.name .outOfRange) ∧
    (ReadsExactly B x ↔
      ¬ (Double.rational? x = some ((IntType.i64.hi + 1 : ℤ) : ℚ) ∧ IntType.i64.hi ≤ B.hi)) := by
  refine ⟨readInt_double_ok_iff, readInt_double_error_iff, ?_, readsExactly_of_not_above⟩
  rintro exact ⟨above, room⟩
  exact Int.not_lt.mpr room (exact.not_above above)

def aboveWide : Float := Float.ofBits 0x43E0000000000000

theorem rational?_aboveWide : Double.rational? aboveWide = some (2 ^ 63) := by
  have exponent : Double.exponentField aboveWide = 1086 := by decide
  have fraction : Double.fractionField aboveWide = 0 := by decide
  have positive : Double.sign aboveWide = 1 := if_neg (by decide)
  rw [Double.rational?, exponent, fraction, positive, if_neg (by decide), if_neg (by decide)]
  norm_num

/-- Two to the 63rd power is read as the integer before it, which is the greatest one of signed 64
bits. -/
theorem aboveWide_saturates :
    (int .i64).read (.double aboveWide) =
      .ok (⟨0x7FFFFFFFFFFFFFFF, by decide⟩ : IntType.i64.Carrier) ∧
    Double.rational? aboveWide = some (2 ^ 63) ∧ ¬ ReadsExactly .i64 aboveWide := by
  have number : Double.rational? aboveWide = some ((0x8000000000000000 : ℤ) : ℚ) := by
    rw [rational?_aboveWide]
    norm_num
  have read : (int .i64).read (.double aboveWide) =
      .ok (⟨0x7FFFFFFFFFFFFFFF, by decide⟩ : IntType.i64.Carrier) :=
    (readInt_double_ok_iff _).mpr ⟨_, ⟨number, by decide, by decide⟩, by decide⟩
  refine ⟨read, rational?_aboveWide, fun exact => ?_⟩
  have same := exact.same _ read
  rw [number, Option.some_inj] at same
  exact absurd (Int.cast_injective same) (by decide)

end SqlRecords.BaseType
