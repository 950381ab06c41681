import SqlRecords.Number.Integer

/-!
# Memos

A memo keeps what was computed for a key and counts how often it was asked. The first entry of a
key stays until the memo is cleared.
-/

namespace SqlRecords

/-- How often a memo was asked, and how much it holds. The counts have no bound; counters of 64 bits
agree with them up to 2^64 - 1 questions. -/
structure MemoStats where
  hits : Nat := 0
  misses : Nat := 0
  entries : Nat := 0
  deriving DecidableEq

namespace MemoStats

/-- How often the memo was asked. -/
def lookups (s : MemoStats) : Nat := s.hits + s.misses

/-- The share of questions that had an answer; zero if there were none. -/
def hitRatio (s : MemoStats) : Float :=
  if s.lookups = 0 then 0 else Float.ofNat s.hits / Float.ofNat s.lookups

/-- The sums of two memos. -/
def merge (a b : MemoStats) : MemoStats :=
  ⟨a.hits + b.hits, a.misses + b.misses, a.entries + b.entries⟩

end MemoStats

/-- Entries by key, with counts of the questions, which have no bound as in `MemoStats`. -/
structure Memo (κ α : Type) where
  label : String := "type-cache"
  entries : List (κ × α) := []
  hits : Nat := 0
  misses : Nat := 0

namespace Memo

variable {κ α : Type} [DecidableEq κ]

/-- The entry of a key; the question is not counted. -/
def find? (m : Memo κ α) (key : κ) : Option α :=
  (m.entries.find? fun entry => entry.1 = key).map (·.2)

/-- There is an entry of the key. -/
def contains (m : Memo κ α) (key : κ) : Bool := (m.find? key).isSome

/-- The number of entries. -/
def size (m : Memo κ α) : Nat := m.entries.length

/-- The counts. -/
def stats (m : Memo κ α) : MemoStats := ⟨m.hits, m.misses, m.size⟩

/-- One more question that had an answer. -/
def hit (m : Memo κ α) : Memo κ α := { m with hits := m.hits + 1 }

/-- One more question without an answer. -/
def miss (m : Memo κ α) : Memo κ α := { m with misses := m.misses + 1 }

/-- The entry of a key, as an answer to a question. -/
def get (m : Memo κ α) (key : κ) : Option α × Memo κ α :=
  match m.find? key with
  | some a => (some a, m.hit)
  | none => (none, m.miss)

/-- The entry of a key, which is `a` unless there is one already. -/
def publish (m : Memo κ α) (key : κ) (a : α) : α × Memo κ α :=
  match m.find? key with
  | some kept => (kept, m)
  | none => (a, { m with entries := m.entries ++ [(key, a)] })

/-- The entry of a key, computed if there is none. The computation may have effects of its own and
may use the memo; an entry that it publishes for the key stays. -/
def getOrComputeM {μ : Type → Type} [Monad μ] (m : Memo κ α) (key : κ)
    (compute : Memo κ α → μ (α × Memo κ α)) : μ (α × Memo κ α) :=
  match m.find? key with
  | some a => pure (a, m.hit)
  | none => do
    let (a, m) ← compute m.miss
    return m.publish key a

/-- The entry of a key, computed without further effects if there is none. -/
def getOrCompute (m : Memo κ α) (key : κ) (compute : Memo κ α → α × Memo κ α) : α × Memo κ α :=
  Id.run (m.getOrComputeM key fun m => pure (compute m))

/-- The entry of a key, which becomes `a` if there is none. -/
def getOrInsert (m : Memo κ α) (key : κ) (a : α) : α × Memo κ α :=
  m.getOrCompute key fun m => (a, m)

/-- The label and the counts on one line. -/
def describe (m : Memo κ α) : String :=
  "TypeCache \x7b label: \"" ++ m.label ++ "\", stats: CacheStats \x7b hits: " ++
    Text.natText m.hits ++ ", misses: " ++ Text.natText m.misses ++ ", entries: " ++
    Text.natText m.size ++ " \x7d \x7d"

/-- The memo without entries and counts. -/
def clear (m : Memo κ α) : Memo κ α := { label := m.label }

end Memo

end SqlRecords
