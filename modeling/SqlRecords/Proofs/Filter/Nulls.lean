import SqlRecords.Criterion.Key
import SqlRecords.Proofs.Filter.Placeholders
import SqlRecords.Proofs.Statement.Contribution

/-!
# Null among the values of a filter

However a criterion is made, its single value is not null; its list of values may hold null all the
same. `Filter.null_mem_params_iff` shows when a filter hands over null.
-/

namespace SqlRecords

namespace Criterion

/-- The criteria that can be made, with a case for each way to make or to change one. -/
inductive Made : Criterion → Prop where
  | bare (op : Operator) (field : String) : Made (.bare op field)
  | compare (op : Operator) (field : String) (v : Value) : Made (.compare op field v)
  | like (w : Wildcard) (field : String) (v : Value) : Made (.like w field v)
  | between (field : String) (low high : Value) : Made (.between field low high)
  | among (field : String) (vs : List Value) : Made (.among field vs)
  | notAmong (field : String) (vs : List Value) : Made (.notAmong field vs)
  | key (k : FilterKey) : Made k.toCriterion
  | column {columns : List String} {values : List Value} {cs : List Criterion} {c : Criterion}
      (paired : Filter.ofColumns columns values = .ok cs) (member : c ∈ cs) : Made c
  | withValue {c : Criterion} (made : Made c) (v : Value) : Made (c.withValue v)
  | withValues {c : Criterion} (made : Made c) (vs : List Value) : Made (c.withValues vs)
  | joined {c : Criterion} (made : Made c) (joint : Joint) : Made (c.joined joint)
  | enabledIf {c : Criterion} (made : Made c) (enabled : Bool) : Made (c.enabledIf enabled)

variable {c : Criterion}

theorem value_withValue_ne_null (c : Criterion) (v : Value) :
    (c.withValue v).value ≠ some .null := by
  cases v <;> simp [withValue, Value.isNull]

/-- Each way of making a criterion sets its value through `withValue`, or not at all. -/
theorem Made.value_ne_null (made : c.Made) : c.value ≠ some .null := by
  induction made with
  | bare | between | among | notAmong => nofun
  | compare => exact value_withValue_ne_null _ _
  | like w field v =>
    rw [Criterion.like]
    split
    · nofun
    · exact value_withValue_ne_null _ _
  | key k =>
    rw [FilterKey.toCriterion]
    split
    · nofun
    · exact value_withValue_ne_null _ _
    · nofun
  | column paired member =>
    rw [Filter.ofColumns] at paired
    split at paired
    · obtain rfl := Except.ok.inj paired
      obtain ⟨entry, -, rfl⟩ := List.mem_map.mp member
      exact value_withValue_ne_null _ _
    · cases paired
  | withValue _ v => exact value_withValue_ne_null _ v
  | withValues _ _ ih | joined _ _ ih | enabledIf _ _ ih => exact ih

/-- That the value is not null is all that a criterion needs to be made. -/
theorem made_iff : c.Made ↔ c.value ≠ some .null := by
  refine ⟨Made.value_ne_null, fun value => ?_⟩
  obtain ⟨field, op, value?, values, joint, enabled⟩ := c
  have made := (((Made.bare op field).withValues values).joined joint).enabledIf enabled
  cases value? with
  | none => exact made
  | some v =>
    have given := made.withValue v
    have nonNull : v.isNull = false := by
      rw [← Bool.not_eq_true, Value.isNull_iff]
      rintro rfl
      exact value rfl
    rw [Criterion.withValue, nonNull] at given
    exact given

/-- The criterion takes part as a range or a membership, with null among its values. -/
def AgainstNull (c : Criterion) : Prop :=
  c.enabled = true ∧ c.operator ∈ [.between, .among, .notAmong] ∧ .null ∈ c.values

theorem null_mem_operands_iff (made : c.Made) :
    .null ∈ c.operands ↔ c.operator ∈ [.between, .among, .notAmong] ∧ .null ∈ c.values := by
  have value := made.value_ne_null
  cases op : c.operator <;> simp [operands, op, value]

theorem AgainstNull.live (against : c.AgainstNull) : c.Live := by
  obtain ⟨enabled, lists, member⟩ := against
  have supplied := List.ne_nil_of_mem member
  refine ⟨enabled, ?_⟩
  simp only [List.mem_cons, List.not_mem_nil, or_false] at lists
  obtain op | op | op := lists <;> rw [op] <;> exact supplied

theorem null_mem_params_iff_againstNull (made : c.Made) : .null ∈ c.params ↔ c.AgainstNull := by
  by_cases live : c.Live
  · rw [params_of_live live, null_mem_operands_iff made, AgainstNull, and_iff_right live.1]
  · rw [params_of_not_live live]
    exact iff_of_false List.not_mem_nil fun against => live against.live

end Criterion

namespace Filter

/-- Null is handed over for a range or a membership that holds it, and for nothing else. -/
theorem null_mem_params_iff (cs : List Criterion) (made : ∀ c ∈ cs, c.Made) :
    .null ∈ params cs ↔ ∃ c ∈ cs, c.AgainstNull := by
  rw [params, List.mem_flatMap]
  constructor
  · rintro ⟨c, member, null⟩
    exact ⟨c, member, (Criterion.null_mem_params_iff_againstNull (made c member)).mp null⟩
  · rintro ⟨c, member, against⟩
    exact ⟨c, member, (Criterion.null_mem_params_iff_againstNull (made c member)).mpr against⟩

/-- Null for an equality, in a disabled membership, and in an enabled one. -/
def nullsAbout : List Criterion :=
  [.compare .eq "name" .null, .enabledIf (.among "state" [.null]) false,
    .notAmong "code" [.text "x", .null]]

theorem null_mem_params_iff_nullsAbout :
    (∀ c ∈ nullsAbout, c.Made) ∧
      (.null ∈ params nullsAbout ↔ ∃ c ∈ nullsAbout, c.AgainstNull) := by
  have made : ∀ c ∈ nullsAbout, c.Made := by
    simp only [nullsAbout, List.forall_mem_cons]
    exact ⟨.compare .., .enabledIf (.among ..) _, .notAmong .., nofun⟩
  exact ⟨made, null_mem_params_iff nullsAbout made⟩

/-- A code that is to be neither of two, one of them null. -/
def neitherNull : Criterion := .notAmong "code" [.text "x", .null]

/-- The second question mark of the text stands for null. -/
theorem neitherNull_against_null :
    neitherNull.Made ∧
      build [neitherNull] = .ok ⟨"code not in(?,?) ", [.text "x", .null]⟩ ∧
        .null ∈ params [neitherNull] :=
  ⟨.notAmong .., rfl, .tail _ (.head _)⟩

end Filter

end SqlRecords
