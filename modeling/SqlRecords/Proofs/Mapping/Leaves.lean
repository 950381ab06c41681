import SqlRecords.Mapping.Schema

/-!
# Leaves of a record

The fields of a record with what they hold, flattened ones in the place of their record.
`mem_values_iff` shows that what a record writes to a table are its leaves without the ignored ones.
-/

namespace SqlRecords

namespace Schema

/-- Every field, in the order of declaration, with what it holds. -/
def leaves : (s : Schema) → s.Record → List (Field × Value)
  | nil, _ => []
  | field f t rest, (x, xs) => (f, t.write x) :: rest.leaves xs
  | flatten _ _ inner rest, (x, xs) => inner.leaves x ++ rest.leaves xs

/-- What a leaf writes to a table: its column and its value, unless it is ignored. -/
def Writes (leaf : Field × Value) (entry : String × Value) : Prop :=
  leaf.1.ignored = false ∧ (leaf.1.column, leaf.2) = entry

theorem mem_values_iff (s : Schema) (r : s.Record) (entry : String × Value) :
    entry ∈ s.values r ↔ ∃ leaf ∈ s.leaves r, Writes leaf entry := by
  rw [values, List.mem_append]
  induction s with
  | nil => simp [ownValues, innerValues, leaves]
  | field f t rest ih =>
    obtain ⟨x, xs⟩ := r
    have later := ih xs
    rw [ownValues, innerValues, leaves]
    by_cases ignored : f.ignored = true
    · have unwritten : ¬ Writes (f, t.write x) entry := by simp [Writes, ignored]
      rw [if_pos ignored, later]
      simp only [List.mem_cons, exists_eq_or_imp, unwritten, false_or]
    · have written : Writes (f, t.write x) entry ↔ entry = (f.column, t.write x) := by
        simp [Writes, ignored, eq_comm]
      rw [if_neg ignored, List.mem_cons, or_assoc, later]
      simp only [List.mem_cons, exists_eq_or_imp, written]
  | flatten name key inner rest ihInner ihRest =>
    obtain ⟨x, xs⟩ := r
    have inside := ihInner x
    have later := ihRest xs
    rw [ownValues, innerValues, leaves]
    simp only [List.mem_append, or_and_right, exists_or, ← inside, ← later]
    exact or_left_comm

end Schema

end SqlRecords
