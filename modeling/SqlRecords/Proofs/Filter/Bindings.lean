import SqlRecords.Criterion.Filter
import SqlRecords.Proofs.Statement.Contribution

/-!
# Values of a filter by name

The last criterion on a field that takes values binds the field's name. `Filter.bindings_of_last`
shows so, and when leaving out the disabled criteria changes nothing: a disabled criterion binds its
field as an enabled one does.
-/

namespace SqlRecords

/-- Every name is bound alike. -/
def Bindings.Agree (b b' : Bindings) : Prop := ∀ name, b.get? name = b'.get? name

/-- The criterion binds the value to its field: null for a single value that is missing, and nothing
if its operator takes no values. -/
def Criterion.Binds (c : Criterion) (v : Value) : Prop :=
  match c.operator with
  | .between | .among | .notAmong => v = .list c.values
  | .isNull | .isNotNull | .ascending | .descending => False
  | .eq | .notEq | .lt | .gt | .le | .ge | .like | .notLike => v = c.value.getD .null

theorem Criterion.binding?_eq_some_iff {c : Criterion} {v : Value} :
    c.binding? = some v ↔ c.Binds v := by
  cases op : c.operator <;> simp [binding?, Binds, Operator.arity, op, eq_comm]

namespace Filter

/-- The criterion binds the value, and none behind it in the list binds the same field. -/
def Decides (cs : List Criterion) (c : Criterion) (v : Value) : Prop :=
  c.Binds v ∧ ∃ before after, cs = before ++ c :: after ∧
    ∀ d ∈ after, d.field = c.field → ∀ w, ¬ d.Binds w

variable {cs : List Criterion} {name : String} {v : Value}

theorem get?_bindings_append (cs ds : List Criterion) (name : String) :
    (bindings (cs ++ ds)).get? name =
      ((bindings ds).get? name).or ((bindings cs).get? name) := by
  simp only [bindings, Bindings.get?_ofList, List.filterMap_append, Bindings.lastBound_append]

theorem get?_bindings_single (c : Criterion) (name : String) :
    (bindings [c]).get? name = if c.field = name then c.binding? else none := by
  rw [bindings, Bindings.get?_ofList]
  cases bound : c.binding? with
  | none => simp [Bindings.lastBound, bound]
  | some v =>
    rw [← Bindings.lastBound_single]
    simp [bound]

theorem get?_bindings_cons (c : Criterion) (cs : List Criterion) (name : String) :
    (bindings (c :: cs)).get? name =
      ((bindings cs).get? name).or (if c.field = name then c.binding? else none) := by
  rw [← List.singleton_append, get?_bindings_append, get?_bindings_single]

theorem get?_bindings_eq_none_iff :
    (bindings cs).get? name = none ↔ ∀ c ∈ cs, c.field = name → ∀ v, ¬ c.Binds v := by
  induction cs with
  | nil => exact iff_of_true rfl nofun
  | cons c rest ih =>
    have here : (if c.field = name then c.binding? else none) = none ↔
        (c.field = name → ∀ v, ¬ c.Binds v) := by
      simp only [← Criterion.binding?_eq_some_iff, ite_eq_right_iff,
        Option.eq_none_iff_forall_ne_some, ne_eq]
    rw [get?_bindings_cons, Option.or_eq_none_iff, ih, here, List.forall_mem_cons, and_comm]

/-- A name is bound by the last criterion that binds it. -/
theorem get?_bindings_eq_some_iff :
    (bindings cs).get? name = some v ↔ ∃ c, Decides cs c v ∧ c.field = name := by
  constructor
  · intro bound
    -- What decides the rest of a list decides the list, for only what is behind it counts.
    induction cs with
    | nil => cases bound
    | cons c rest ih =>
      rw [get?_bindings_cons, Option.or_eq_some_iff] at bound
      obtain later | ⟨unbound, here⟩ := bound
      · obtain ⟨d, ⟨binds, before, after, rfl, last⟩, named⟩ := ih later
        exact ⟨d, ⟨binds, c :: before, after, rfl, last⟩, named⟩
      · obtain ⟨named, binds⟩ := Option.ite_none_right_eq_some.mp here
        refine ⟨c, ⟨Criterion.binding?_eq_some_iff.mp binds, [], rest, rfl, ?_⟩, named⟩
        rw [named]
        exact get?_bindings_eq_none_iff.mp unbound
  · rintro ⟨c, ⟨binds, before, after, rfl, last⟩, rfl⟩
    rw [get?_bindings_append, get?_bindings_cons, get?_bindings_eq_none_iff.mpr last, if_pos rfl,
      Criterion.binding?_eq_some_iff.mpr binds]
    rfl

theorem Decides.filter {c : Criterion} {p : Criterion → Bool} (decides : Decides cs c v)
    (kept : p c = true) : Decides (cs.filter p) c v := by
  obtain ⟨binds, before, after, rfl, last⟩ := decides
  refine ⟨binds, before.filter p, after.filter p, ?_, ?_⟩
  · rw [List.filter_append, List.filter_cons_of_pos kept]
  · exact fun d member => last d (List.mem_filter.mp member).1

/-- What the bindings of a filter hold, and how they depend on disabled criteria. -/
structure BindsLast (cs : List Criterion) : Prop where
  /-- A name has the value that the last criterion to bind it binds, be it enabled or not. -/
  bound : ∀ name v, (bindings cs).get? name = some v ↔ ∃ c, Decides cs c v ∧ c.field = name
  /-- The disabled criteria add nothing exactly if each that is the last to bind its field binds
  what the last enabled one binds. -/
  disabled : (bindings (cs.filter (·.enabled))).Agree (bindings cs) ↔
    ∀ c v, Decides cs c v → c.enabled = false →
      ∃ d, Decides (cs.filter (·.enabled)) d v ∧ d.field = c.field

/-- The last criterion on a field binds it, also when it is disabled. -/
theorem bindings_of_last (cs : List Criterion) : BindsLast cs where
  bound := fun _ _ => get?_bindings_eq_some_iff
  disabled := by
    constructor
    · intro agree c v decides _
      have bound := get?_bindings_eq_some_iff.mpr ⟨c, decides, rfl⟩
      rw [← agree] at bound
      exact get?_bindings_eq_some_iff.mp bound
    · intro same name
      cases bound : (bindings cs).get? name with
      | none =>
        have unbound := get?_bindings_eq_none_iff.mp bound
        exact get?_bindings_eq_none_iff.mpr fun c member =>
          unbound c (List.mem_filter.mp member).1
      | some v =>
        obtain ⟨c, decides, rfl⟩ := get?_bindings_eq_some_iff.mp bound
        refine get?_bindings_eq_some_iff.mpr ?_
        cases enabled : c.enabled with
        | true => exact ⟨c, decides.filter enabled, rfl⟩
        | false => exact same c v decides enabled

/-- A state to filter by, and behind it another one that is disabled. -/
def openOrClosed : List Criterion :=
  [.compare .eq "state" (.text "open"), .enabledIf (.compare .eq "state" (.text "closed")) false]

/-- The filter asks for the first state, in its text and its values, and binds the second. -/
theorem disabled_overrides :
    build openOrClosed = .ok ⟨"state = ? ", [.text "open"]⟩ ∧
      (bindings openOrClosed).get? "state" = some (.text "closed") ∧
        ¬ (bindings (openOrClosed.filter (·.enabled))).Agree (bindings openOrClosed) := by
  refine ⟨rfl, rfl, fun agree => ?_⟩
  have same : some (Value.text "open") = some (Value.text "closed") := agree "state"
  simp at same

end Filter

end SqlRecords
