import SqlRecords.Number.Integer
import SqlRecords.Proofs.Text.Runs

/-!
# Decimal digits

The digits of a natural number read as the number when it is in the range, and as too large
otherwise. No digit is blank, so that trimming keeps them.
-/

namespace SqlRecords.Text

theorem isDigit_bounds {c : Char} (digit : c.isDigit = true) : 48 ≤ c.toNat ∧ c.toNat ≤ 57 := by
  unfold Char.isDigit at digit
  simp only [Bool.and_eq_true, decide_eq_true_eq] at digit
  exact ⟨digit.1, digit.2⟩

theorem digit?_of_isDigit {c : Char} (digit : c.isDigit = true) :
    digit? c = some (c.toNat - '0'.toNat) := by
  obtain ⟨low, high⟩ := isDigit_bounds digit
  have inside : '0' ≤ c ∧ c ≤ '9' := ⟨low, high⟩
  unfold digit?
  rw [if_pos inside]
  rfl

/-! ### Reading digits -/

theorem le_ofDigitChars (ds : List Char) (acc : Nat) : acc ≤ Nat.ofDigitChars 10 ds acc := by
  induction ds generalizing acc with
  | nil => exact Nat.le_of_eq Nat.ofDigitChars_nil.symm
  | cons c ds ih =>
    have step := ih (10 * acc + (c.toNat - '0'.toNat))
    rw [Nat.ofDigitChars_cons]
    omega

/-- Reading stops at the first digit that leaves the range, and no later digit leads back. -/
theorem readDigits_eq {lo hi : Int} (below : lo ≤ 0) {ds : List Char}
    (digits : ∀ c ∈ ds, c.isDigit = true) {acc : Nat} (inside : (acc : Int) ≤ hi) :
    readDigits lo hi 1 acc ds =
      if (Nat.ofDigitChars 10 ds acc : Int) ≤ hi then .ok (Nat.ofDigitChars 10 ds acc : Int)
      else .error .tooLarge := by
  induction ds generalizing acc with
  | nil =>
    rw [Nat.ofDigitChars_nil, if_pos inside]
    rfl
  | cons c ds ih =>
    have later : ∀ d ∈ ds, d.isDigit = true :=
      fun d member => digits d (List.mem_cons_of_mem c member)
    have next : (10 * (acc : Int) + 1 * ((c.toNat - '0'.toNat : Nat) : Int)) =
        ((10 * acc + (c.toNat - '0'.toNat) : Nat) : Int) := by
      omega
    unfold readDigits
    rw [digit?_of_isDigit (digits c List.mem_cons_self), Nat.ofDigitChars_cons]
    dsimp only
    rw [next]
    generalize 10 * acc + (c.toNat - '0'.toNat) = n
    by_cases larger : hi < n
    · have beyond : ¬ (Nat.ofDigitChars 10 ds n : Int) ≤ hi := by
        have grows := le_ofDigitChars ds n
        omega
      rw [if_pos larger, if_neg beyond]
    · have above : ¬ (n : Int) < lo := by omega
      rw [if_neg larger, if_neg above]
      exact ih later (by omega)

theorem readInteger_eq_readDigits {lo hi : Int} {ds : List Char} (present : ds ≠ [])
    (digits : ∀ c ∈ ds, c.isDigit = true) : readInteger lo hi ds = readDigits lo hi 1 0 ds := by
  unfold readInteger
  split
  · exact absurd rfl present
  · exact absurd (digits '+' List.mem_cons_self) (by decide)
  · exact absurd (digits '-' List.mem_cons_self) (by decide)
  · exact absurd (digits '+' List.mem_cons_self) (by decide)
  · exact absurd (digits '-' List.mem_cons_self) (by decide)
  · rfl

theorem isDigit_of_mem_toDigits {n : Nat} {c : Char} (member : c ∈ Nat.toDigits 10 n) :
    c.isDigit = true := Nat.isDigit_of_mem_toDigits (by decide) (by decide) member

theorem isDigit_of_mem_natText {n : Nat} {c : Char} (member : c ∈ (natText n).toList) :
    c.isDigit = true := by
  rw [natText, String.toList_ofList] at member
  exact isDigit_of_mem_toDigits member

theorem readInteger_natText {lo hi : Int} (below : lo ≤ 0) (above : 0 ≤ hi) (n : Nat) :
    readInteger lo hi (natText n).toList =
      if (n : Int) ≤ hi then .ok (n : Int) else .error .tooLarge := by
  have digits : ∀ c ∈ Nat.toDigits 10 n, c.isDigit = true := fun c => isDigit_of_mem_toDigits
  have start : ((0 : Nat) : Int) ≤ hi := above
  have read := readDigits_eq below digits start
  rw [natText, String.toList_ofList, readInteger_eq_readDigits Nat.toDigits_ne_nil digits]
  rw [Nat.ofDigitChars_ten_toDigits] at read
  exact read

/-! ### Trimming -/

theorem isBlank_of_isDigit {c : Char} (digit : c.isDigit = true) : isBlank c = false := by
  obtain ⟨low, high⟩ := isDigit_bounds digit
  exact isBlank_of_graphic (by omega) (by omega)

theorem trim_natText (n : Nat) : trim (natText n) = natText n :=
  trim_of_solid fun _ member => isBlank_of_isDigit (isDigit_of_mem_natText member)

end SqlRecords.Text
