import SqlRecords.Proofs.Access.Condition
import SqlRecords.Proofs.Access.KeyUpdate

/-!
# What updates set

An update by a key refuses to run when there is nothing to set. An update by a filter does not look:
`Gateway.update_sets_iff` shows that it sets something exactly if one of the calls that its
assignments were gathered by took effect, and that it runs all the same if none did.
-/

namespace SqlRecords

variable {σ : Type}

/-! ### Gathering assignments -/

namespace Assignments

/-- A call that may add an assignment. -/
inductive Step where
  | set (column : String) (v : Value)
  | setIf (condition : Bool) (column : String) (v : Value)

def Step.Adds : Step → Prop
  | set _ _ => True
  | setIf condition _ _ => condition = true

def Step.entry? : Step → Option (String × Value)
  | set column v => some (column, v)
  | setIf condition column v => if condition then some (column, v) else none

def advance (a : Assignments) : Step → Assignments
  | .set column v => a.set column v
  | .setIf condition column v => a.setIf condition column v

/-- The assignments after calls one after the other, from none on. -/
def run (steps : List Step) : Assignments := steps.foldl advance empty

theorem entries_advance (a : Assignments) (step : Step) :
    (a.advance step).entries = a.entries ++ step.entry?.toList := by
  cases step with
  | set column v => rfl
  | setIf condition column v =>
    cases condition with
    | true => rfl
    | false => exact (List.append_nil a.entries).symm

theorem entries_foldl (a : Assignments) (steps : List Step) :
    (steps.foldl advance a).entries = a.entries ++ steps.filterMap Step.entry? := by
  induction steps generalizing a with
  | nil => exact (List.append_nil a.entries).symm
  | cons step rest ih =>
    rw [List.foldl_cons, ih, entries_advance, List.append_assoc, List.filterMap_cons]
    cases step.entry? with
    | none => rfl
    | some entry => rfl

theorem entries_run (steps : List Step) : (run steps).entries = steps.filterMap Step.entry? :=
  entries_foldl empty steps

/-- Any assignments can be gathered. -/
theorem exists_run (a : Assignments) : ∃ steps, run steps = a := by
  refine ⟨a.entries.map fun entry => .set entry.1 entry.2, ?_⟩
  have entries : (run (a.entries.map fun entry => .set entry.1 entry.2)).entries = a.entries := by
    rw [entries_run, List.filterMap_map]
    exact List.filterMap_some
  cases a
  exact congrArg Assignments.mk entries

theorem Step.adds_iff (step : Step) : step.Adds ↔ step.entry? ≠ none := by
  cases step with
  | set column v => exact iff_of_true trivial nofun
  | setIf condition column v => cases condition <;> simp [Adds, entry?]

theorem entries_run_ne_nil_iff (steps : List Step) :
    (run steps).entries ≠ [] ↔ ∃ step ∈ steps, step.Adds := by
  rw [entries_run, ne_eq, List.filterMap_eq_nil_iff]
  simp only [Step.adds_iff, not_forall, exists_prop, ne_eq]

end Assignments

/-! ### Statements that set something -/

/-- The columns, each set to a placeholder. -/
def assigning (columns : List String) : String := ", ".intercalate (columns.map (· ++ " = ?"))

/-- Between its head and the condition the text sets one column or more. -/
def SetsSome (table condition text : String) : Prop :=
  ∃ columns, columns ≠ [] ∧
    text = "update " ++ table ++ " set " ++ assigning columns ++ " " ++ condition

theorem length_assigning {columns : List String} (some : columns ≠ []) :
    0 < (assigning columns).length := by
  cases columns with
  | nil => exact absurd rfl some
  | cons column rest =>
    rw [assigning, List.map_cons, Filter.intercalate_cons_join, String.length_append,
      String.length_append]
    have placeholder : " = ?".length = 4 := rfl
    omega

theorem setsSome_assigning_iff (table condition : String) (columns : List String) :
    SetsSome table condition
      ("update " ++ table ++ " set " ++ assigning columns ++ " " ++ condition) ↔ columns ≠ [] := by
  refine ⟨?_, fun some => ⟨columns, some, rfl⟩⟩
  rintro ⟨others, some, same⟩ rfl
  have lengths := congrArg String.length same
  have nothing : (assigning []).length = 0 := rfl
  have something := length_assigning some
  simp only [String.length_append, nothing] at lengths
  omega

/-- Each statement of an update sets something before one of the conditions; if there is no statement
the arguments are refused. -/
structure SetsOrRefuses (table : String) (conditions : String → Prop)
    (outcome : Except AccessError Nat) (calls : List Call) : Prop where
  sets : ∀ call ∈ calls, ∃ s condition, call = .execute s ∧ conditions condition ∧
    SetsSome table condition s.text
  refuses : calls = [] → ∃ cause, outcome = .error (.statement (.invalidArgument cause))

def ComparesKey (condition : String) : Prop :=
  ∃ columns, columns ≠ [] ∧ condition = "where " ++ equalities columns

def SaysFilter (cs : List Criterion) (condition : String) : Prop :=
  ∃ t, Filter.text cs = .ok t ∧ condition = Filter.clause cs t ++ " "

section

variable {table : String} {conditions : String → Prop} {outcome : Except AccessError Nat}

theorem SetsOrRefuses.refused (cause : InvalidArgument) :
    SetsOrRefuses table conditions (.error (.statement (.invalidArgument cause))) [] where
  sets := nofun
  refuses := fun _ => ⟨cause, rfl⟩

theorem setsOrRefuses_single_iff {s : Statement} :
    SetsOrRefuses table conditions outcome [.execute s] ↔
      ∃ condition, conditions condition ∧ SetsSome table condition s.text := by
  constructor
  · intro holds
    obtain ⟨_, condition, same, allowed, some⟩ := holds.sets _ List.mem_cons_self
    obtain rfl := Call.execute.inj same
    exact ⟨condition, allowed, some⟩
  · rintro ⟨condition, allowed, some⟩
    refine ⟨fun call member => ?_, nofun⟩
    obtain rfl := List.mem_singleton.mp member
    exact ⟨s, condition, rfl, allowed, some⟩

end

namespace Gateway

open Access

theorem updateByKey_sets (g : Gateway σ) (T : RecordType) (r : T.Carrier) (skipNull : Bool) :
    (g.recording.updateByKey T r skipNull).Traces (SetsOrRefuses (g.tableOf T) ComparesKey) := by
  refine keyOf_bind_traces (fun _ => .refused _) ?_
  change (built (updateByKeyStatement (g.tableOf T) T.key
    ((T.values r).filter fun entry => !(skipNull && entry.2.isNull))) >>=
      g.recording.affected).Traces _
  generalize (T.values r).filter (fun entry => !(skipNull && entry.2.isNull)) = kept
  generalize isKeys : kept.filter (fun entry => T.key.contains entry.1) = keys
  generalize isOthers : kept.filter (fun entry => !T.key.contains entry.1) = others
  rw [updateByKeyStatement_eq isKeys isOthers]
  split
  case isTrue lacking => exact built_error_traces (.refused _)
  case isFalse enough =>
    obtain ⟨sets, compares⟩ := not_or.mp enough
    refine built_ok_traces ((g.affected_traces _).imp fun outcome calls handed => ?_)
    rw [handed, setsOrRefuses_single_iff]
    refine ⟨_, ⟨keys.map (·.1), by simpa using compares, rfl⟩, others.map (·.1),
      by simpa using sets, ?_⟩
    rw [assigning, List.map_map]
    rfl

/-- An update by a filter hands its statement over whatever the assignments are. -/
theorem update_traces (g : Gateway σ) (a : Assignments) (cs : List Criterion) :
    (g.recording.update a cs).Traces fun outcome calls =>
      match Filter.text cs with
      | .error e => calls = [] ∧ outcome = .error (.statement e)
      | .ok t => calls = [.execute
          ⟨"update " ++ g.table ++ " set " ++ a.phrase ++ " " ++ Filter.clause cs t ++ " ",
            a.params ++ Filter.params cs⟩] := by
  change (built (updating g.table a cs) >>= g.recording.affected).Traces _
  cases rendered : Filter.text cs with
  | error e =>
    have failed : updating g.table a cs = .error e := by
      rw [updating, Filter.build, rendered]
      rfl
    rw [failed]
    exact built_error_traces ⟨rfl, rfl⟩
  | ok t =>
    rw [updating_of_text g.table a rendered]
    exact built_ok_traces (g.affected_traces _)

theorem setsOrRefuses_of_rendered {g : Gateway σ} {a : Assignments} {cs : List Criterion}
    {t : String} {outcome : Except AccessError Nat} (rendered : Filter.text cs = .ok t)
    (params : List Value) :
    SetsOrRefuses g.table (SaysFilter cs) outcome [.execute
        ⟨"update " ++ g.table ++ " set " ++ a.phrase ++ " " ++ Filter.clause cs t ++ " ", params⟩] ↔
      a.entries ≠ [] := by
  have phrase : a.phrase = assigning (a.entries.map (·.1)) := by
    rw [assigning, List.map_map]
    rfl
  have columns : a.entries.map (·.1) ≠ [] ↔ a.entries ≠ [] := not_congr List.map_eq_nil_iff
  rw [setsOrRefuses_single_iff, phrase, String.append_assoc, ← columns,
    ← setsSome_assigning_iff g.table (Filter.clause cs t ++ " ")]
  constructor
  · rintro ⟨condition, ⟨t', again, rfl⟩, some⟩
    obtain rfl := Except.ok.inj (rendered.symm.trans again)
    exact some
  · exact fun some => ⟨_, ⟨t, rendered, rfl⟩, some⟩

/-- An update by a key sets something or refuses its arguments. An update by a filter that renders
does so exactly if one of the calls that gathered its assignments added one. -/
theorem update_sets_iff (g : Gateway σ) (T : RecordType) (r : T.Carrier) (skipNull : Bool)
    (steps : List Assignments.Step) (cs : List Criterion) :
    (g.recording.updateByKey T r skipNull).Traces (SetsOrRefuses (g.tableOf T) ComparesKey) ∧
    (g.recording.update (Assignments.run steps) cs).Traces fun outcome calls =>
      (SetsOrRefuses g.table (SaysFilter cs) outcome calls ↔
        (∃ step ∈ steps, step.Adds) ∨ ∃ e, Filter.text cs = .error e) := by
  refine ⟨g.updateByKey_sets T r skipNull, ?_⟩
  refine (g.update_traces (Assignments.run steps) cs).imp fun outcome calls ran => ?_
  cases rendered : Filter.text cs with
  | error e =>
    rw [rendered] at ran
    obtain ⟨rfl, rfl⟩ := ran
    obtain ⟨-, c, -, -, -, -, rfl⟩ := (Filter.text_error_iff cs e).mp rendered
    exact iff_of_true (.refused _) (.inr ⟨_, rfl⟩)
  | ok t =>
    rw [rendered] at ran
    have noError : ¬ ∃ e, (Except.ok t : Except StatementError String) = .error e := nofun
    rw [ran, setsOrRefuses_of_rendered rendered, Assignments.entries_run_ne_nil_iff,
      or_iff_left noError]

/-- The one call sets its column under a condition that does not hold. -/
def nothingToSet : List Assignments.Step := [.setIf false "state" (.text "open")]

/-- The update runs on all rows of the customer, and sets nothing. -/
theorem update_nothingToSet_runs :
    let (outcome, after) := orders.update (Assignments.run nothingToSet)
      [.compare .eq "customer" (.text "ann")] { world := {} }
    outcome = .ok 1 ∧
      after.world.log = [.execute ⟨"update orders set  where customer = ?  ", [.text "ann"]⟩] ∧
      ¬ SetsOrRefuses "orders" (SaysFilter [.compare .eq "customer" (.text "ann")]) outcome
        after.world.log := by
  have rendered : Filter.text [.compare .eq "customer" (.text "ann")] = .ok "customer = ? " := rfl
  refine ⟨rfl, rfl, fun sets => ?_⟩
  exact (setsOrRefuses_of_rendered (g := orders) (a := Assignments.run nothingToSet) rendered
    [.text "ann"]).mp sets rfl

end Gateway

end SqlRecords
