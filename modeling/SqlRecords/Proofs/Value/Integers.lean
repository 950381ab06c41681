import SqlRecords.Proofs.Number.Numeral
import SqlRecords.Proofs.Outcome
import SqlRecords.Value.FieldType

/-!
# Integers read back

Integers up to the greatest one of signed 64 bits are read back as they were written, into any type
they fit. Those beyond are written as text, and no integer type reads this text.
-/

namespace SqlRecords

namespace IntType

theorem ofInt?_of_fits {t : IntType} {n : Int} (fits : t.lo ≤ n ∧ n ≤ t.hi) :
    t.ofInt? n = some ⟨n, fits⟩ := dif_pos fits

theorem ofInt?_of_not_fits {t : IntType} {n : Int} (misfit : ¬ (t.lo ≤ n ∧ n ≤ t.hi)) :
    t.ofInt? n = none := dif_neg misfit

theorem val_widen {t : IntType} (u : IntType) (n : t.Carrier)
    (wider : u.lo ≤ t.lo ∧ t.hi ≤ u.hi) : (widen u n wider).val = n.val := rfl

theorem lo_i64_le (t : IntType) : i64.lo ≤ t.lo := by cases t <;> decide

end IntType

namespace BaseType

variable {A B : IntType} {a : A.Carrier}

theorem ofInt_of_beyond (beyond : IntType.i64.hi < a.val) :
    ofInt A a = .text (Text.intText a.val) := by
  have misfit : ¬ (IntType.i64.lo ≤ a.val ∧ a.val ≤ IntType.i64.hi) := by omega
  have top : a.val ≤ A.hi := a.property.2
  cases A with
  | u64 | usize =>
    unfold ofInt
    dsimp only
    rw [IntType.ofInt?_of_not_fits misfit]
  | _ => exact absurd (Int.lt_of_lt_of_le beyond top) (by decide)

theorem readWide_of_within (target : String) (within : a.val ≤ IntType.i64.hi) :
    readWide target (ofInt A a) = .ok a.val := by
  have fits : IntType.i64.lo ≤ a.val ∧ a.val ≤ IntType.i64.hi :=
    ⟨Int.le_trans A.lo_i64_le a.property.1, within⟩
  cases A with
  | u64 | usize =>
    unfold ofInt
    dsimp only
    rw [IntType.ofInt?_of_fits fits, readWide]
  | i32 | i64 => rw [ofInt, readWide]
  | _ => rw [ofInt, readWide, IntType.val_widen]

/-- A text is read as the integer that it is a numeral of, with blanks around it or not. -/
theorem readWide_text_ok_iff {target s : String} {n : Int} :
    readWide target (.text s) = .ok n ↔
      Text.Numeral (Text.trim s).toList n ∧ IntType.i64.lo ≤ n ∧ n ≤ IntType.i64.hi := by
  rw [← Text.readInteger_ok_iff IntType.i64.lo_le_zero IntType.i64.zero_le_hi]
  unfold readWide
  dsimp only
  constructor
  · exact mapError_ok
  · intro read
    rw [read]
    rfl

theorem readWide_text (target : String) (n : Nat) :
    readWide target (.text (Text.natText n)) =
      if (n : Int) ≤ IntType.i64.hi then .ok (n : Int)
      else .error (.parse (Text.natText n) target (.integer .tooLarge)) := by
  unfold readWide
  dsimp only
  rw [Text.trim_natText, Text.readInteger_natText (IntType.lo_le_zero _) (IntType.zero_le_hi _)]
  split
  · rfl
  · rfl

theorem readWide_of_beyond (target : String) (beyond : IntType.i64.hi < a.val) :
    readWide target (ofInt A a) =
      .error (.parse (Text.intText a.val) target (.integer .tooLarge)) := by
  have positive : 0 ≤ a.val := Int.le_trans IntType.i64.zero_le_hi (Int.le_of_lt beyond)
  obtain ⟨n, same⟩ := Int.eq_ofNat_of_zero_le positive
  have digits : Text.intText a.val = Text.natText n := by
    rw [Text.intText, if_neg (Int.not_lt.mpr positive), same]
    rfl
  have large : ¬ (n : Int) ≤ IntType.i64.hi := by
    rw [← same]
    exact Int.not_le.mpr beyond
  rw [ofInt_of_beyond beyond, digits, readWide_text, if_neg large]

theorem readInt_of_wide {v : Value} {n : Int} (wide : readWide B.name v = .ok n) :
    readInt B v =
      match B.ofInt? n with
      | some b => .ok b
      | none => .error (.parse (Text.intText n) B.name .outOfRange) := by
  unfold readInt
  rw [wide]
  rfl

theorem readInt_of_beyond (beyond : IntType.i64.hi < a.val) :
    readInt B (ofInt A a) =
      .error (.parse (Text.intText a.val) B.name (.integer .tooLarge)) := by
  unfold readInt
  rw [readWide_of_beyond B.name beyond]
  rfl

theorem readInt_of_fits (within : a.val ≤ IntType.i64.hi) (fits : B.lo ≤ a.val ∧ a.val ≤ B.hi) :
    readInt B (ofInt A a) = .ok ⟨a.val, fits⟩ := by
  rw [readInt_of_wide (readWide_of_within B.name within), IntType.ofInt?_of_fits fits]

theorem readInt_of_misfit (within : a.val ≤ IntType.i64.hi)
    (misfit : ¬ (B.lo ≤ a.val ∧ a.val ≤ B.hi)) :
    readInt B (ofInt A a) = .error (.parse (Text.intText a.val) B.name .outOfRange) := by
  rw [readInt_of_wide (readWide_of_within B.name within), IntType.ofInt?_of_not_fits misfit]

theorem readInt_ok_iff (A B : IntType) (a : A.Carrier) (b : B.Carrier) :
    readInt B (ofInt A a) = .ok b ↔ b.val = a.val ∧ a.val ≤ IntType.i64.hi := by
  by_cases beyond : IntType.i64.hi < a.val
  · rw [readInt_of_beyond beyond]
    exact iff_of_false nofun fun held => absurd held.2 (Int.not_le.mpr beyond)
  · have within : a.val ≤ IntType.i64.hi := Int.not_lt.mp beyond
    by_cases fits : B.lo ≤ a.val ∧ a.val ≤ B.hi
    · rw [readInt_of_fits within fits, Except.ok.injEq, Subtype.ext_iff, and_iff_left within]
      exact eq_comm
    · rw [readInt_of_misfit within fits]
      exact iff_of_false nofun fun held => fits (held.1 ▸ b.property)

theorem readInt_error_iff (A B : IntType) (a : A.Carrier) (e : ConversionError) :
    readInt B (ofInt A a) = .error e ↔
      if IntType.i64.hi < a.val then e = .parse (Text.intText a.val) B.name (.integer .tooLarge)
      else ¬ (B.lo ≤ a.val ∧ a.val ≤ B.hi) ∧
        e = .parse (Text.intText a.val) B.name .outOfRange := by
  by_cases beyond : IntType.i64.hi < a.val
  · rw [if_pos beyond, readInt_of_beyond beyond, Except.error.injEq]
    exact eq_comm
  · have within : a.val ≤ IntType.i64.hi := Int.not_lt.mp beyond
    rw [if_neg beyond]
    by_cases fits : B.lo ≤ a.val ∧ a.val ≤ B.hi
    · rw [readInt_of_fits within fits]
      exact iff_of_false nofun fun held => held.1 fits
    · rw [readInt_of_misfit within fits, Except.error.injEq, and_iff_right fits]
      exact eq_comm

/-- An integer that is written from one type and read into another one is the same integer, as long
as it is not beyond the signed 64 bits. Beyond them it is too large for every type; otherwise it is
out of range where it does not fit. So reading gives the integer exactly where it fits, except for
what is beyond the signed 64 bits and fits all the same. -/
theorem read_written_int (A B : IntType) (a : A.Carrier) :
    (∀ b : B.Carrier, (int B).read ((int A).write a) = .ok b ↔
      b.val = a.val ∧ a.val ≤ IntType.i64.hi) ∧
    (∀ e, (int B).read ((int A).write a) = .error e ↔
      if IntType.i64.hi < a.val then e = .parse (Text.intText a.val) B.name (.integer .tooLarge)
      else ¬ (B.lo ≤ a.val ∧ a.val ≤ B.hi) ∧
        e = .parse (Text.intText a.val) B.name .outOfRange) ∧
    ((∀ b : B.Carrier, (int B).read ((int A).write a) = .ok b ↔ b.val = a.val) ↔
      a.val ≤ IntType.i64.hi ∨ B.hi < a.val) := by
  have ok : ∀ b : B.Carrier, (int B).read ((int A).write a) = .ok b ↔
      b.val = a.val ∧ a.val ≤ IntType.i64.hi := readInt_ok_iff A B a
  refine ⟨ok, readInt_error_iff A B a, ?_⟩
  constructor
  · intro same
    by_cases larger : B.hi < a.val
    · exact .inr larger
    · by_cases within : a.val ≤ IntType.i64.hi
      · exact .inl within
      -- What is beyond the signed 64 bits is positive, so that only the upper bound counts.
      · have positive : B.lo ≤ a.val := by
          have low := B.lo_le_zero
          have high := IntType.i64.zero_le_hi
          omega
        have read := (same ⟨a.val, positive, Int.not_lt.mp larger⟩).mpr rfl
        exact .inl ((ok _).mp read).2
  · rintro (within | larger) b
    · rw [ok b, and_iff_left within]
    · have apart : b.val ≠ a.val := by
        have top := b.property.2
        omega
      rw [ok b]
      exact iff_of_false (fun held => apart held.1) apart

/-- The greatest unsigned integer of 64 bits. -/
def greatest : IntType.u64.Carrier := ⟨0xFFFFFFFFFFFFFFFF, by decide⟩

/-- The greatest unsigned integer is written as its digits, which its own type does not read. -/
theorem greatest_not_read :
    (int .u64).write greatest = .text "18446744073709551615" ∧
    (int .u64).read ((int .u64).write greatest) =
      .error (.parse "18446744073709551615" "u64" (.integer .tooLarge)) ∧
    ¬ ∀ b : IntType.u64.Carrier,
      (int .u64).read ((int .u64).write greatest) = .ok b ↔ b.val = greatest.val := by
  have beyond : IntType.i64.hi < greatest.val := by decide
  have digits : Text.intText greatest.val = "18446744073709551615" := by decide
  have written : (int .u64).write greatest = .text "18446744073709551615" := by
    rw [← digits]
    exact ofInt_of_beyond beyond
  have read : (int .u64).read ((int .u64).write greatest) =
      .error (.parse "18446744073709551615" "u64" (.integer .tooLarge)) := by
    rw [← digits]
    exact readInt_of_beyond beyond
  refine ⟨written, read, fun claimed => ?_⟩
  have same := (claimed greatest).mpr rfl
  rw [read] at same
  cases same

end BaseType

end SqlRecords
