import SqlRecords.Proofs.Number.Digits

/-!
# Numerals

A numeral is digits behind a sign or behind none. `Text.readInteger_ok_iff` shows that an integer
is read from just its numerals if it is in the range, so that a narrower range only leaves integers
out.
-/

namespace SqlRecords.Text

/-- The text is a numeral of the integer. -/
inductive Numeral : List Char → Int → Prop
  | plain {ds : List Char} (digits : ∀ c ∈ ds, c.isDigit = true) (present : ds ≠ []) :
      Numeral ds (Nat.ofDigitChars 10 ds 0)
  | plus {ds : List Char} (digits : ∀ c ∈ ds, c.isDigit = true) (present : ds ≠ []) :
      Numeral ('+' :: ds) (Nat.ofDigitChars 10 ds 0)
  | minus {ds : List Char} (digits : ∀ c ∈ ds, c.isDigit = true) (present : ds ≠ []) :
      Numeral ('-' :: ds) (-(Nat.ofDigitChars 10 ds 0 : Int))

section Forms

variable {ds : List Char} {n : Int}

theorem not_numeral_nil : ¬ Numeral [] n := by
  intro numeral
  cases numeral with
  | plain _ present => exact present rfl

theorem numeral_plus_iff :
    Numeral ('+' :: ds) n ↔
      ds ≠ [] ∧ (∀ c ∈ ds, c.isDigit = true) ∧ n = Nat.ofDigitChars 10 ds 0 := by
  constructor
  · intro numeral
    cases numeral with
    | plain digits => exact absurd (digits '+' List.mem_cons_self) (by decide)
    | plus digits present => exact ⟨present, digits, rfl⟩
  · rintro ⟨present, digits, rfl⟩
    exact .plus digits present

theorem numeral_minus_iff :
    Numeral ('-' :: ds) n ↔
      ds ≠ [] ∧ (∀ c ∈ ds, c.isDigit = true) ∧ n = -(Nat.ofDigitChars 10 ds 0 : Int) := by
  constructor
  · intro numeral
    cases numeral with
    | plain digits => exact absurd (digits '-' List.mem_cons_self) (by decide)
    | minus digits present => exact ⟨present, digits, rfl⟩
  · rintro ⟨present, digits, rfl⟩
    exact .minus digits present

theorem numeral_iff_of_unsigned (plus : ∀ rest, ds ≠ '+' :: rest)
    (minus : ∀ rest, ds ≠ '-' :: rest) :
    Numeral ds n ↔
      ds ≠ [] ∧ (∀ c ∈ ds, c.isDigit = true) ∧ n = Nat.ofDigitChars 10 ds 0 := by
  constructor
  · intro numeral
    cases numeral with
    | plain digits present => exact ⟨present, digits, rfl⟩
    | plus => exact absurd rfl (plus _)
    | minus => exact absurd rfl (minus _)
  · rintro ⟨present, digits, rfl⟩
    exact .plain digits present

end Forms

/-! ### Reading -/

section Reading

variable {lo hi n : Int}

theorem isDigit_of_digit? {c : Char} {d : Nat} (digit : digit? c = some d) : c.isDigit = true := by
  unfold digit? at digit
  split at digit
  case isTrue inside =>
    unfold Char.isDigit
    simp only [Bool.and_eq_true, decide_eq_true_eq]
    exact inside
  case isFalse => cases digit

theorem isDigit_of_readDigits {unit acc : Int} {ds : List Char}
    (read : readDigits lo hi unit acc ds = .ok n) : ∀ c ∈ ds, c.isDigit = true := by
  induction ds generalizing acc with
  | nil => exact nofun
  | cons c rest ih =>
    rw [readDigits] at read
    cases digit : digit? c with
    | none =>
      rw [digit] at read
      cases read
    | some d =>
      simp only [digit] at read
      split at read
      case isTrue => cases read
      case isFalse =>
        split at read
        case isTrue => cases read
        case isFalse =>
          intro e member
          obtain rfl | later := List.mem_cons.mp member
          · exact isDigit_of_digit? digit
          · exact ih read e later

theorem readDigits_ok_iff (below : lo ≤ 0) {acc : Nat} (inside : (acc : Int) ≤ hi)
    {ds : List Char} :
    readDigits lo hi 1 acc ds = .ok n ↔
      (∀ c ∈ ds, c.isDigit = true) ∧ n = Nat.ofDigitChars 10 ds acc ∧ n ≤ hi := by
  constructor
  · intro read
    have digits := isDigit_of_readDigits read
    rw [readDigits_eq below digits inside] at read
    split at read
    case isTrue fits =>
      obtain rfl := Except.ok.inj read
      exact ⟨digits, rfl, fits⟩
    case isFalse => cases read
  · rintro ⟨digits, rfl, fits⟩
    rw [readDigits_eq below digits inside, if_pos fits]

/-- Digits that count down are read as those that count up, within the range turned around zero. -/
theorem readDigits_minus_iff {acc : Int} {ds : List Char} :
    readDigits lo hi (-1) (-acc) ds = .ok n ↔ readDigits (-hi) (-lo) 1 acc ds = .ok (-n) := by
  induction ds generalizing acc with
  | nil =>
    rw [readDigits, readDigits, Except.ok.injEq, Except.ok.injEq]
    omega
  | cons c rest ih =>
    rw [readDigits, readDigits]
    cases digit? c with
    | none => exact iff_of_false nofun nofun
    | some d =>
      have next : 10 * -acc + -1 * (d : Int) = -(10 * acc + 1 * d) := by omega
      dsimp only
      rw [next]
      generalize 10 * acc + 1 * (d : Int) = m
      by_cases inside : lo ≤ -m ∧ -m ≤ hi
      · rw [if_neg (by omega), if_neg (by omega), if_neg (by omega), if_neg (by omega)]
        exact ih
      · refine iff_of_false (fun read => ?_) fun read => ?_
        · split at read
          case isTrue => cases read
          case isFalse =>
            rw [if_pos (by omega)] at read
            cases read
        · split at read
          case isTrue => cases read
          case isFalse =>
            rw [if_pos (by omega)] at read
            cases read

/-- An integer of a range with zero is read from its numerals and from nothing else. -/
theorem readInteger_ok_iff (below : lo ≤ 0) (above : 0 ≤ hi) {s : List Char} :
    readInteger lo hi s = .ok n ↔ Numeral s n ∧ lo ≤ n ∧ n ≤ hi := by
  have zero : ((0 : Nat) : Int) ≤ hi := above
  have up {ds : List Char} (present : ds ≠ []) :
      readDigits lo hi 1 0 ds = .ok n ↔
        (ds ≠ [] ∧ (∀ c ∈ ds, c.isDigit = true) ∧ n = Nat.ofDigitChars 10 ds 0) ∧
          lo ≤ n ∧ n ≤ hi := by
    have read : readDigits lo hi 1 0 ds = .ok n ↔ _ := readDigits_ok_iff below zero
    rw [read]
    constructor
    · rintro ⟨digits, rfl, fits⟩
      exact ⟨⟨present, digits, rfl⟩, by omega, fits⟩
    · rintro ⟨⟨-, digits, same⟩, -, fits⟩
      exact ⟨digits, same, fits⟩
  have down {ds : List Char} (present : ds ≠ []) :
      readDigits lo hi (-1) 0 ds = .ok n ↔
        (ds ≠ [] ∧ (∀ c ∈ ds, c.isDigit = true) ∧ n = -(Nat.ofDigitChars 10 ds 0 : Int)) ∧
          lo ≤ n ∧ n ≤ hi := by
    have low : ((0 : Nat) : Int) ≤ -lo := by omega
    have mirrored : readDigits lo hi (-1) (-0) ds = .ok n ↔ _ := readDigits_minus_iff
    have read : readDigits (-hi) (-lo) 1 0 ds = .ok (-n) ↔ _ :=
      readDigits_ok_iff (by omega) low
    rw [Int.neg_zero] at mirrored
    rw [mirrored, read]
    constructor
    · rintro ⟨digits, same, fits⟩
      exact ⟨⟨present, digits, by omega⟩, by omega, by omega⟩
    · rintro ⟨⟨-, digits, same⟩, fits, -⟩
      exact ⟨digits, by omega, by omega⟩
  unfold readInteger
  split
  case h_1 => exact iff_of_false nofun fun numeral => not_numeral_nil numeral.1
  case h_2 => exact iff_of_false nofun fun numeral => (numeral_plus_iff.mp numeral.1).1 rfl
  case h_3 => exact iff_of_false nofun fun numeral => (numeral_minus_iff.mp numeral.1).1 rfl
  case h_4 rest more =>
    rw [numeral_plus_iff]
    exact up fun none => more (by rw [none])
  case h_5 rest more =>
    rw [numeral_minus_iff]
    exact down fun none => more (by rw [none])
  case h_6 s nonempty _ _ plus minus =>
    rw [numeral_iff_of_unsigned plus minus]
    exact up nonempty

end Reading

/-! ### Writing -/

theorem numeral_intText (n : Int) : Numeral (intText n).toList n := by
  have digits : ∀ c ∈ Nat.toDigits 10 n.natAbs, c.isDigit = true := fun c => isDigit_of_mem_toDigits
  have value := Nat.ofDigitChars_ten_toDigits (n := n.natAbs)
  rw [toList_intText]
  split
  case isTrue negative =>
    exact numeral_minus_iff.mpr ⟨Nat.toDigits_ne_nil, digits, by omega⟩
  case isFalse positive =>
    have numeral := Numeral.plain digits Nat.toDigits_ne_nil
    rw [value, Int.natAbs_of_nonneg (Int.not_lt.mp positive)] at numeral
    exact numeral

theorem trim_intText (n : Int) : trim (intText n) = intText n := by
  refine trim_of_solid fun c member => ?_
  rw [toList_intText] at member
  split at member
  case isTrue =>
    obtain rfl | digit := List.mem_cons.mp member
    · decide
    · exact isBlank_of_isDigit (isDigit_of_mem_toDigits digit)
  case isFalse => exact isBlank_of_isDigit (isDigit_of_mem_toDigits member)

end SqlRecords.Text
