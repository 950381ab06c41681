import SqlRecords.Access.Gateway

/-!
# Recording what is handed over

A recording executor answers as its inner one and keeps every call. `Traces` says how an operation
on a recording gateway ends and which calls it hands over, and `Mirrors` that recording changes
neither its outcome nor the world; both compose along `bind`.
-/

namespace SqlRecords

variable {σ α β : Type}

/-- The statement of a call. -/
def Call.statement : Call → Statement
  | query s => s
  | execute s => s

/-- The executor that keeps a log of its calls beside the state of the inner one. -/
def Executor.recording (inner : Executor σ) : Executor (σ × List Call) where
  query s world :=
    let (r, after) := inner.query s world.1
    (r, after, world.2 ++ [.query s])
  execute s world :=
    let (r, after) := inner.execute s world.1
    (r, after, world.2 ++ [.execute s])

/-- The gateway over the recording executor. -/
def Gateway.recording (g : Gateway σ) : Gateway (σ × List Call) where
  executor := g.executor.recording
  table := g.table
  lead := g.lead
  pageSize := g.pageSize

/-- The session without the log. -/
def Session.unlogged (s : Session (σ × List Call)) : Session σ :=
  { world := s.world.1, registry := s.registry }

namespace Access

theorem bind_apply (m : Access σ α) (f : α → Access σ β) (session : Session σ) :
    (m >>= f) session =
      match m session with
      | (.ok a, next) => f a next
      | (.error e, next) => (.error e, next) := by
  change ExceptT.bindCont f (m session).1 (m session).2 = _
  rcases m session with ⟨e | a, next⟩ <;> rfl

/-- Whatever session it starts on, the operation adds calls to the log so that `P` holds of its
outcome and of these calls. -/
def Traces (m : Access (σ × List Call) α) (P : Except AccessError α → List Call → Prop) : Prop :=
  ∀ session, ∃ calls, (m session).2.world.2 = session.world.2 ++ calls ∧ P (m session).1 calls

theorem Traces.imp {m : Access (σ × List Call) α} {P Q : Except AccessError α → List Call → Prop}
    (traced : m.Traces P) (weaken : ∀ r calls, P r calls → Q r calls) : m.Traces Q := by
  intro session
  obtain ⟨calls, grown, holds⟩ := traced session
  exact ⟨calls, grown, weaken _ _ holds⟩

theorem Traces.bind {m : Access (σ × List Call) α} {f : α → Access (σ × List Call) β}
    {P : Except AccessError α → List Call → Prop} {Q : Except AccessError β → List Call → Prop}
    (first : m.Traces P) (fails : ∀ e calls, P (.error e) calls → Q (.error e) calls)
    (goesOn : ∀ a calls, P (.ok a) calls → (f a).Traces fun r more => Q r (calls ++ more)) :
    (m >>= f).Traces Q := by
  intro session
  obtain ⟨calls, grown, holds⟩ := first session
  rw [bind_apply]
  rcases ended : m session with ⟨e | a, next⟩
  · rw [ended] at grown holds
    exact ⟨calls, grown, fails e calls holds⟩
  · rw [ended] at grown holds
    obtain ⟨more, extended, after⟩ := goesOn a calls holds next
    refine ⟨calls ++ more, ?_, after⟩
    rw [extended, grown, List.append_assoc]

/-! ### Steps that hand nothing over -/

/-- The operation hands nothing to the executor. -/
def Silent (m : Access (σ × List Call) α) : Prop := m.Traces fun _ calls => calls = []

theorem silent_pure (a : α) : (pure a : Access (σ × List Call) α).Silent :=
  fun session => ⟨[], (List.append_nil session.world.2).symm, rfl⟩

theorem silent_throw (e : AccessError) : (throw e : Access (σ × List Call) α).Silent :=
  fun session => ⟨[], (List.append_nil session.world.2).symm, rfl⟩

theorem built_traces (r : Except StatementError α) :
    (built r : Access (σ × List Call) α).Traces fun outcome calls =>
      calls = [] ∧ outcome = r.mapError .statement :=
  fun session => ⟨[], (List.append_nil session.world.2).symm, rfl, rfl⟩

theorem silent_mapped (r : Except MappingError α) : (mapped r : Access (σ × List Call) α).Silent :=
  fun session => ⟨[], (List.append_nil session.world.2).symm, rfl⟩

theorem silent_read (r : Except ConversionError α) : (read r : Access (σ × List Call) α).Silent :=
  fun session => ⟨[], (List.append_nil session.world.2).symm, rfl⟩

theorem silent_mapper (T : RecordType) :
    (Gateway.mapper T : Access (σ × List Call) Mapper).Silent :=
  fun session => ⟨[], (List.append_nil session.world.2).symm, rfl⟩

theorem Silent.bind {m : Access (σ × List Call) α} {f : α → Access (σ × List Call) β}
    (first : m.Silent) (goesOn : ∀ a, (f a).Silent) : (m >>= f).Silent :=
  Traces.bind first (fun _ _ none => none) fun a calls none => by
    subst none
    exact goesOn a

/-- What follows silently leaves the calls as they are. -/
theorem Traces.bind_silent {m : Access (σ × List Call) α} {f : α → Access (σ × List Call) β}
    {P : List Call → Prop} (first : m.Traces fun _ calls => P calls) (rest : ∀ a, (f a).Silent) :
    (m >>= f).Traces fun _ calls => P calls :=
  Traces.bind first (fun _ _ holds => holds) fun a calls holds =>
    (rest a).imp fun _ more none => by
      rw [none, List.append_nil]
      exact holds

/-- A statement that cannot be built ends the operation before anything is handed over. -/
theorem built_bind_traces {r : Except StatementError α} {f : α → Access (σ × List Call) β}
    {Q : Except AccessError β → List Call → Prop}
    (refused : ∀ e, r = .error e → Q (.error (.statement e)) [])
    (goesOn : ∀ a, r = .ok a → (f a).Traces Q) : (built r >>= f).Traces Q := by
  refine Traces.bind (built_traces r) ?_ ?_
  · rintro e calls ⟨rfl, failed⟩
    cases r with
    | error e' =>
      obtain rfl := Except.error.inj failed
      exact refused e' rfl
    | ok a => cases failed
  · rintro a calls ⟨rfl, made⟩
    cases r with
    | error e => cases made
    | ok a' =>
      obtain rfl := Except.ok.inj made
      exact goesOn a rfl

theorem built_error_traces {e : StatementError} {f : α → Access (σ × List Call) β}
    {Q : Except AccessError β → List Call → Prop} (refused : Q (.error (.statement e)) []) :
    (built (.error e) >>= f).Traces Q := by
  refine built_bind_traces ?_ fun _ made => by cases made
  intro e' failed
  obtain rfl := Except.error.inj failed
  exact refused

theorem built_ok_traces {a : α} {f : α → Access (σ × List Call) β}
    {Q : Except AccessError β → List Call → Prop} (goesOn : (f a).Traces Q) :
    (built (.ok a) >>= f).Traces Q := by
  refine built_bind_traces (fun _ failed => by cases failed) ?_
  intro a' made
  obtain rfl := Except.ok.inj made
  exact goesOn

/-! ### Recording changes nothing else -/

/-- The operation `m`, which is recorded, ends as `n` does and leaves the same world. -/
def Mirrors (m : Access (σ × List Call) α) (n : Access σ α) : Prop :=
  ∀ session, n session.unlogged = ((m session).1, (m session).2.unlogged)

theorem Mirrors.bind {m : Access (σ × List Call) α} {n : Access σ α}
    {f : α → Access (σ × List Call) β} {h : α → Access σ β} (first : m.Mirrors n)
    (goesOn : ∀ a, (f a).Mirrors (h a)) : (m >>= f).Mirrors (n >>= h) := by
  intro session
  have same := first session
  rw [bind_apply, bind_apply, same]
  rcases m session with ⟨e | a, next⟩
  · rfl
  · exact goesOn a next

theorem mirrors_pure (a : α) :
    (pure a : Access (σ × List Call) α).Mirrors (pure a : Access σ α) := fun _ => rfl

theorem mirrors_throw (e : AccessError) :
    (throw e : Access (σ × List Call) α).Mirrors (throw e : Access σ α) := fun _ => rfl

theorem mirrors_built (r : Except StatementError α) :
    (built r : Access (σ × List Call) α).Mirrors (built r : Access σ α) := fun _ => rfl

theorem mirrors_mapped (r : Except MappingError α) :
    (mapped r : Access (σ × List Call) α).Mirrors (mapped r : Access σ α) := fun _ => rfl

theorem mirrors_read (r : Except ConversionError α) :
    (read r : Access (σ × List Call) α).Mirrors (read r : Access σ α) := fun _ => rfl

theorem mirrors_mapper (T : RecordType) :
    (Gateway.mapper T : Access (σ × List Call) Mapper).Mirrors
      (Gateway.mapper T : Access σ Mapper) := fun _ => rfl

end Access

namespace Gateway

open Access

theorem query_mirrors (g : Gateway σ) (s : Statement) :
    (g.recording.query s).Mirrors (g.query s) := fun _ => rfl

theorem execute_mirrors (g : Gateway σ) (s : Statement) :
    (g.recording.execute s).Mirrors (g.execute s) := fun _ => rfl

theorem affected_mirrors (g : Gateway σ) (s : Statement) :
    (g.recording.affected s).Mirrors (g.affected s) :=
  (g.execute_mirrors s).bind fun _ => mirrors_pure _

theorem countOf_mirrors (g : Gateway σ) (s : Statement) :
    (g.recording.countOf s).Mirrors (g.countOf s) := by
  refine ((g.query_mirrors s).bind fun _ => mirrors_pure _).bind fun v => ?_
  cases v with
  | none => exact mirrors_pure _
  | some v => exact (mirrors_read _).bind fun _ => mirrors_pure _

theorem firstOf_mirrors (g : Gateway σ) (T : RecordType) (s : Statement) :
    (g.recording.firstOf T s).Mirrors (g.firstOf T s) := by
  refine (g.query_mirrors s).bind fun rows => ?_
  cases rows with
  | nil => exact mirrors_pure _
  | cons row rest =>
    exact (mirrors_mapper T).bind fun _ => (mirrors_mapped _).bind fun _ => mirrors_pure _

theorem listOf_mirrors (g : Gateway σ) (T : RecordType) (s : Statement) :
    (g.recording.listOf T s).Mirrors (g.listOf T s) :=
  (g.query_mirrors s).bind fun _ => (mirrors_mapper T).bind fun _ => mirrors_mapped _

theorem pageOf_mirrors (g : Gateway σ) (T : RecordType) (total data : Statement) (page size : Int) :
    (g.recording.pageOf T total data page size).Mirrors (g.pageOf T total data page size) := by
  refine (g.countOf_mirrors total).bind fun n => ?_
  cases Layout.make page size n with
  | error e => exact mirrors_throw _
  | ok layout =>
    by_cases few : n < 1
    · simp only [few, if_true]
      exact mirrors_pure _
    · simp only [few, if_false]
      exact (g.listOf_mirrors T _).bind fun _ => mirrors_pure _

theorem keyOf_eq (T : RecordType) :
    keyOf T = if T.key = [] then .error (.invalidArgument (.noKey T.name)) else .ok T.key := by
  rw [keyOf]
  cases T.key <;> rfl

theorem keyOf_bind_traces {T : RecordType} {f : List String → Access (σ × List Call) α}
    {Q : Except AccessError α → List Call → Prop}
    (refused : T.key = [] → Q (.error (.statement (.invalidArgument (.noKey T.name)))) [])
    (goesOn : (f T.key).Traces Q) : (built (keyOf T) >>= f).Traces Q := by
  rw [keyOf_eq]
  by_cases noKey : T.key = []
  · rw [if_pos noKey]
    exact built_error_traces (refused noKey)
  · rw [if_neg noKey]
    exact built_ok_traces goesOn

/-! ### Steps that hand one statement over -/

theorem query_traces (g : Gateway σ) (s : Statement) :
    (g.recording.query s).Traces fun _ calls => calls = [.query s] :=
  fun _ => ⟨[.query s], rfl, rfl⟩

theorem execute_traces (g : Gateway σ) (s : Statement) :
    (g.recording.execute s).Traces fun _ calls => calls = [.execute s] :=
  fun _ => ⟨[.execute s], rfl, rfl⟩

theorem affected_traces (g : Gateway σ) (s : Statement) :
    (g.recording.affected s).Traces fun _ calls => calls = [.execute s] :=
  (g.execute_traces s).bind_silent fun _ => silent_pure _

theorem firstValue_traces (g : Gateway σ) (s : Statement) :
    (g.recording.firstValue s).Traces fun _ calls => calls = [.query s] :=
  (g.query_traces s).bind_silent fun _ => silent_pure _

theorem countOf_traces (g : Gateway σ) (s : Statement) :
    (g.recording.countOf s).Traces fun _ calls => calls = [.query s] := by
  refine (g.firstValue_traces s).bind_silent fun v => ?_
  cases v with
  | none => exact silent_pure _
  | some v => exact (silent_read _).bind fun _ => silent_pure _

theorem firstOf_traces (g : Gateway σ) (T : RecordType) (s : Statement) :
    (g.recording.firstOf T s).Traces fun _ calls => calls = [.query s] := by
  refine (g.query_traces s).bind_silent fun rows => ?_
  cases rows with
  | nil => exact silent_pure _
  | cons row rest =>
    exact (silent_mapper T).bind fun _ => (silent_mapped _).bind fun _ => silent_pure _

theorem listOf_traces (g : Gateway σ) (T : RecordType) (s : Statement) :
    (g.recording.listOf T s).Traces fun _ calls => calls = [.query s] :=
  (g.query_traces s).bind_silent fun _ => (silent_mapper T).bind fun _ => silent_mapped _

/-- A page hands over the total, and behind it the data with the limit of a window or nothing. -/
theorem pageOf_traces (g : Gateway σ) (T : RecordType) (total data : Statement) (page size : Int) :
    (g.recording.pageOf T total data page size).Traces fun _ calls =>
      calls = [.query total] ∨
        ∃ w : Window, calls = [.query total, .query ⟨data.text ++ w.limit, data.params⟩] := by
  refine Traces.bind (g.countOf_traces total) (fun _ _ counted => .inl counted) ?_
  rintro n calls rfl
  cases Layout.make page size n with
  | error e =>
    refine (silent_throw (.statement e)).imp fun _ more none => .inl ?_
    rw [none, List.append_nil]
  | ok layout =>
    by_cases few : n < 1
    · simp only [few, if_true]
      refine (silent_pure _).imp fun _ more none => .inl ?_
      rw [none, List.append_nil]
    · simp only [few, if_false]
      refine ((g.listOf_traces T _).bind_silent fun _ => silent_pure _).imp fun _ more handed => ?_
      rw [handed]
      exact .inr ⟨layout.window, rfl⟩

end Gateway

end SqlRecords
