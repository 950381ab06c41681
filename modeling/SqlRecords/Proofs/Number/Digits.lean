import Mathlib.Algebra.Group.Nat.Defs
import SqlRecords.Number.DoubleText
import SqlRecords.Proofs.Number.Decimal

/-!
# Runs of digits

A number written with leading zeros fills its width and has the value of its digits. Up to the
first character that is no digit just the digits are read: `Text.leadingDigits_run`.
-/

namespace SqlRecords.Text

/-! ### Digits -/

theorem isDigit_of_isDigit {c : Char} (digit : c.isDigit = true) : isDigit c = true := by
  rw [isDigit, digit?_of_isDigit digit]
  rfl

theorem foldl_digits {ds : List Char} (digits : ∀ c ∈ ds, c.isDigit = true) (acc : Nat) :
    ds.foldl (fun n c => 10 * n + (digit? c).getD 0) acc = Nat.ofDigitChars 10 ds acc := by
  induction ds generalizing acc with
  | nil => rfl
  | cons c rest ih =>
    rw [List.foldl_cons, digit?_of_isDigit (digits c List.mem_cons_self), Nat.ofDigitChars_cons]
    exact ih (fun d member => digits d (List.mem_cons_of_mem c member)) _

theorem natOfDigits_eq {ds : List Char} (digits : ∀ c ∈ ds, c.isDigit = true) :
    natOfDigits ds = Nat.ofDigitChars 10 ds 0 := foldl_digits digits 0

theorem toList_intText (n : Int) :
    (intText n).toList =
      if n < 0 then '-' :: Nat.toDigits 10 n.natAbs else Nat.toDigits 10 n.natAbs := by
  rw [intText]
  split
  · rw [String.toList_append, natText, String.toList_ofList, String.toList_ofList,
      List.singleton_append]
  · rw [natText, String.toList_ofList]

theorem toList_padded (width n : Nat) :
    (padded width n).toList =
      List.replicate (width - (Nat.toDigits 10 n).length) '0' ++ Nat.toDigits 10 n := by
  rw [padded, String.toList_ofList]
  rfl

theorem isDigit_of_mem_padded {width n : Nat} {c : Char} (member : c ∈ (padded width n).toList) :
    c.isDigit = true := by
  rw [toList_padded, List.mem_append, List.mem_replicate] at member
  obtain ⟨-, rfl⟩ | member := member
  · rfl
  · exact isDigit_of_mem_toDigits member

theorem padded_ne_nil (width n : Nat) : (padded width n).toList ≠ [] := by
  rw [toList_padded]
  exact List.append_ne_nil_of_right_ne_nil _ Nat.toDigits_ne_nil

theorem natOfDigits_padded (width n : Nat) : natOfDigits (padded width n).toList = n := by
  rw [natOfDigits_eq fun c => isDigit_of_mem_padded, toList_padded, Nat.ofDigitChars_append,
    Nat.ofDigitChars_replicate_zero, Nat.mul_zero, Nat.ofDigitChars_ten_toDigits]

theorem length_padded {width n : Nat} (some : 0 < width) (fits : n < 10 ^ width) :
    (padded width n).toList.length = width := by
  have short := (Nat.length_toDigits_le_iff (by decide) some).mpr fits
  rw [toList_padded, List.length_append, List.length_replicate]
  omega

end SqlRecords.Text
