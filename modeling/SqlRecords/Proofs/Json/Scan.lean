import SqlRecords.Json.Reader
import SqlRecords.Proofs.Json.Kept
import SqlRecords.Proofs.Number.Digits
import SqlRecords.Proofs.Value.Uuid

/-!
# The tokens of a JSON text

The scanner finds the tokens that a text was written from: `Kept.scan_text`. Numbers and words end
where the next token begins, which is always a bracket, a comma or a colon.
-/

namespace SqlRecords.Json

open Text

/-! ### Integers -/

section Step

variable {mode next : Mode} {c : Char} {tokens : List Token}

end Step

/-- A character that a number or a word may go on with. -/
def insideWord (c : Char) : Bool := isNumberPart c || c.isAlpha

/-- The tokens are found in their text, whatever follows it that ends a number or a word. -/
def Scans (ts : List Token) : Prop :=
  ∀ rest, Stops insideWord rest →
    scan .idle (ts.flatMap Token.text ++ rest) = (scan .idle rest).map (ts ++ ·)

/-- The token is found in its text, whatever follows. -/
def Token.Closed (t : Token) : Prop :=
  ∀ rest, scan .idle (t.text ++ rest) = (scan .idle rest).map (t :: ·)

theorem Scans.cons {t : Token} {ts : List Token} (closed : t.Closed) (later : Scans ts) :
    Scans (t :: ts) := by
  intro rest stops
  rw [List.flatMap_cons, List.append_assoc, closed, later rest stops, Option.map_map]
  rfl

/-- Between two runs of tokens stands one that ends any number or word. -/
theorem Scans.between {ts us : List Token} {t : Token} (left : Scans ts) (closed : t.Closed)
    (ends : ∀ rest, Stops insideWord (t.text ++ rest)) (right : Scans us) :
    Scans (ts ++ t :: us) := by
  intro rest stops
  rw [List.flatMap_append, List.append_assoc, left _ ?_, (right.cons closed) rest stops,
    Option.map_map]
  · congr 1
    funext more
    exact (List.append_assoc _ _ _).symm
  -- What follows the left run begins with the text of `t`.
  · rw [List.flatMap_cons, List.append_assoc]
    exact ends _

end SqlRecords.Json
