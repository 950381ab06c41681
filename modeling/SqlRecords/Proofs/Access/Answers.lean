import SqlRecords.Proofs.Access.Recording

/-!
# Answers of the executor

What counting and listing make of the answer that the executor gives, from a session on. With
`TracesFrom` an operation is described together with the answers that it gets.
-/

namespace SqlRecords

variable {σ α β : Type}

/-- The count that rows hold: the first value of the first row as an integer. A value that is
missing or null counts as zero. -/
def countIn : List Row → Except ConversionError I64
  | ⟨(_, v) :: _⟩ :: _ => if v.isNull then .ok (IntType.zero .i64) else BaseType.readInt .i64 v
  | _ => .ok (IntType.zero .i64)

theorem countIn_eq (rows : List Row) :
    countIn rows =
      match (rows.head?.bind fun row => row.at? 0).filter fun v => !v.isNull with
      | none => .ok (IntType.zero .i64)
      | some v => BaseType.readInt .i64 v := by
  rcases rows with _ | ⟨⟨_ | ⟨⟨label, v⟩, cells⟩⟩, rows⟩
  · rfl
  · rfl
  · change (if v.isNull then _ else _) = match Option.filter (fun v => !v.isNull) (some v) with
      | none => _
      | some v => _
    rw [Option.filter_some]
    cases v.isNull <;> rfl

/-- The count in an answer. -/
def counted (answer : Except AccessError (List Row)) : Except AccessError I64 := do
  let rows ← answer
  (countIn rows).mapError .conversion

/-- The records in an answer. -/
def recordsIn (m : Mapper) (T : RecordType) (answer : Except AccessError (List Row)) :
    Except AccessError (List T.Carrier) := do
  let rows ← answer
  (m.mapRows T rows).mapError .mapping

namespace Access

/-- From this session on, the operation adds calls to the log so that `P` holds of its outcome and
of these calls. -/
def TracesFrom (session : Session (σ × List Call)) (m : Access (σ × List Call) α)
    (P : Except AccessError α → List Call → Prop) : Prop :=
  ∃ calls, (m session).2.world.2 = session.world.2 ++ calls ∧ P (m session).1 calls

variable {session : Session (σ × List Call)}

theorem built_bind_tracesFrom {r : Except StatementError α} {f : α → Access (σ × List Call) β}
    {Q : Except AccessError β → List Call → Prop}
    (refused : ∀ e, r = .error e → Q (.error (.statement e)) [])
    (goesOn : ∀ a, r = .ok a → TracesFrom session (f a) Q) :
    TracesFrom session (built r >>= f) Q := by
  cases r with
  | error e => exact ⟨[], (List.append_nil _).symm, refused e rfl⟩
  | ok a =>
    rw [TracesFrom, bind_apply]
    exact goesOn a rfl

theorem tracesFrom_pure {P : Except AccessError α → List Call → Prop} {a : α} (holds : P (.ok a) []) :
    TracesFrom session (pure a) P := ⟨[], (List.append_nil _).symm, holds⟩

theorem tracesFrom_throw {P : Except AccessError α → List Call → Prop} {e : AccessError}
    (holds : P (.error e) []) : TracesFrom session (throw e) P :=
  ⟨[], (List.append_nil _).symm, holds⟩

theorem built_ok_bind (a : α) (f : α → Access σ β) : (built (.ok a) >>= f) = f a := by
  funext session
  rw [bind_apply]
  rfl

theorem TracesFrom.imp {m : Access (σ × List Call) α}
    {P Q : Except AccessError α → List Call → Prop} (traced : TracesFrom session m P)
    (weaken : ∀ r calls, P r calls → Q r calls) : TracesFrom session m Q := by
  obtain ⟨calls, grown, holds⟩ := traced
  exact ⟨calls, grown, weaken _ _ holds⟩

theorem TracesFrom.map {m : Access (σ × List Call) α}
    {P : Except AccessError α → List Call → Prop} (traced : TracesFrom session m P) (f : α → β) :
    TracesFrom session (m >>= fun a => pure (f a))
      fun outcome calls => ∃ r, P r calls ∧ outcome = r.map f := by
  obtain ⟨calls, grown, holds⟩ := traced
  rw [TracesFrom, bind_apply]
  rcases ended : m session with ⟨e | a, next⟩
  · rw [ended] at grown holds
    exact ⟨calls, grown, .error e, holds, rfl⟩
  · rw [ended] at grown holds
    exact ⟨calls, grown, .ok a, holds, rfl⟩

end Access

namespace Gateway

open Access

theorem firstValue_apply (g : Gateway σ) (s : Statement) (session : Session σ) :
    g.firstValue s session =
      ((g.executor.query s session.world).1.map fun rows =>
          (rows.head?.bind fun row => row.at? 0).filter fun v => !v.isNull,
        { session with world := (g.executor.query s session.world).2 }) := by
  rw [firstValue, bind_apply, query]
  rcases g.executor.query s session.world with ⟨e | rows, after⟩ <;> rfl

theorem countOf_apply (g : Gateway σ) (s : Statement) (session : Session σ) :
    g.countOf s session =
      ((counted (g.executor.query s session.world).1).map (·.val),
        { session with world := (g.executor.query s session.world).2 }) := by
  rw [countOf, bind_apply, firstValue_apply]
  rcases g.executor.query s session.world with ⟨e | rows, after⟩
  · rfl
  · change _ = (((countIn rows).mapError AccessError.conversion).map (·.val), _)
    rw [countIn_eq]
    dsimp only [Except.map]
    cases (rows.head?.bind fun row => row.at? 0).filter fun v => !v.isNull with
    | none => rfl
    | some v =>
      dsimp only
      rw [bind_apply, Access.read]
      cases BaseType.readInt .i64 v <;> rfl

theorem listOf_apply (g : Gateway σ) (T : RecordType) (s : Statement) (session : Session σ) :
    (g.listOf T s session).1 =
        recordsIn (session.registry.mapper T).1 T (g.executor.query s session.world).1 ∧
      (g.listOf T s session).2.world = (g.executor.query s session.world).2 := by
  rw [listOf, bind_apply, query]
  rcases g.executor.query s session.world with ⟨e | rows, after⟩
  · exact ⟨rfl, rfl⟩
  · exact ⟨rfl, rfl⟩

/-! ### On a recording gateway -/

/-- The session after a query. -/
def asked (g : Gateway σ) (s : Statement) (session : Session (σ × List Call)) :
    Session (σ × List Call) :=
  { session with
    world := ((g.executor.query s session.world.1).2, session.world.2 ++ [.query s]) }

theorem countOf_recording (g : Gateway σ) (s : Statement) (session : Session (σ × List Call)) :
    g.recording.countOf s session =
      ((counted (g.executor.query s session.world.1).1).map (·.val), g.asked s session) :=
  g.recording.countOf_apply s session

theorem countOf_bind_tracesFrom (g : Gateway σ) (s : Statement) {session : Session (σ × List Call)}
    {f : Int → Access (σ × List Call) α} {Q : Except AccessError α → List Call → Prop}
    (failed : ∀ e, counted (g.executor.query s session.world.1).1 = .error e →
      Q (.error e) [.query s])
    (goesOn : ∀ n, counted (g.executor.query s session.world.1).1 = .ok n →
      TracesFrom (g.asked s session) (f n.val) fun r calls => Q r (.query s :: calls)) :
    TracesFrom session (g.recording.countOf s >>= f) Q := by
  rw [TracesFrom, bind_apply, countOf_recording]
  cases count : counted (g.executor.query s session.world.1).1 with
  | error e => exact ⟨[.query s], rfl, failed e count⟩
  | ok n =>
    obtain ⟨calls, grown, holds⟩ := goesOn n count
    refine ⟨.query s :: calls, ?_, holds⟩
    rw [← List.singleton_append, ← List.append_assoc]
    exact grown

theorem listOf_tracesFrom (g : Gateway σ) (T : RecordType) (s : Statement)
    (session : Session (σ × List Call)) :
    TracesFrom session (g.recording.listOf T s) fun outcome calls =>
      calls = [.query s] ∧
        outcome = recordsIn (session.registry.mapper T).1 T
          (g.executor.query s session.world.1).1 := by
  obtain ⟨outcome, world⟩ := g.recording.listOf_apply T s session
  exact ⟨[.query s], congrArg Prod.snd world, rfl, outcome⟩

end Gateway

end SqlRecords
