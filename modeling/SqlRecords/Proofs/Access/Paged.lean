import SqlRecords.Proofs.Access.Answers
import SqlRecords.Proofs.Outcome
import SqlRecords.Proofs.Paging.Windows
import SqlRecords.Proofs.Template.Ending
import SqlRecords.Sample.Records

/-!
# Runs of pages

A page is counted first and selected second. `PageRun` lists the ways in which such a run ends, each
with the statements that it hands over by then; `page_runs` and `pageOfTemplates_runs` show that
pages of a filter and pages of templates run like this.
-/

namespace SqlRecords

variable {σ : Type}

/-- The statement with a limit behind it. -/
def Statement.limited (s : Statement) (start size : Int) : Statement :=
  ⟨s.text ++ limitClause start size, s.params⟩

/-- How a page ends that is counted by `total` and selected by `data`, and what it hands over to the
executor, which is in the state `world` before. -/
inductive PageRun (x : Executor σ) (m : Mapper) (T : RecordType) (world : σ) (total : Statement)
    (data : Except StatementError Statement) (page size : Int) :
    Except AccessError (Page T.Carrier) → List Call → Prop where
  /-- There is no answer to the count, or no integer in it. -/
  | uncounted {e : AccessError} (count : counted (x.query total world).1 = .error e) :
      PageRun x m T world total data page size (.error e) [.query total]
  /-- The size is refused, but not before the count is made. -/
  | refused {n : I64} (count : counted (x.query total world).1 = .ok n) (unsized : size ≤ 0) :
      PageRun x m T world total data page size
        (.error (.statement (.invalidArgument (.pageSize size)))) [.query total]
  /-- There is nothing to select. -/
  | empty {n : I64} {l : Layout} (count : counted (x.query total world).1 = .ok n)
      (sized : 0 < size) (none : n.val < 1) (made : Layout.make page size n.val = .ok l) :
      PageRun x m T world total data page size (.ok ⟨l, []⟩) [.query total]
  | unselected {n : I64} {e : StatementError} (count : counted (x.query total world).1 = .ok n)
      (sized : 0 < size) (some : 1 ≤ n.val) (failed : data = .error e) :
      PageRun x m T world total data page size (.error (.statement e)) [.query total]
  /-- The rows of a window are selected, and the items are their records. -/
  | selected {n : I64} {l : Layout} {d : Statement}
      (count : counted (x.query total world).1 = .ok n) (sized : 0 < size) (some : 1 ≤ n.val)
      (built : data = .ok d) (made : Layout.make page size n.val = .ok l) (within : l.Within)
      (multiple : size ∣ l.start) (first : 0 ≤ l.start) (last : l.start < n.val) :
      PageRun x m T world total data page size
        ((recordsIn m T (x.query (d.limited l.start size) (x.query total world).2).1).map (Page.mk l))
        [.query total, .query (d.limited l.start size)]

/-- With something to select, a size and a statement for it, the run is that of `selected`. -/
theorem PageRun.selects {x : Executor σ} {m : Mapper} {T : RecordType} {world : σ}
    {total d : Statement} {data : Except StatementError Statement} {page size : Int}
    {outcome : Except AccessError (Page T.Carrier)} {calls : List Call} {n : I64}
    (run : PageRun x m T world total data page size outcome calls)
    (count : counted (x.query total world).1 = .ok n) (sized : 0 < size) (some : 1 ≤ n.val)
    (built : data = .ok d) :
    ∃ l, Layout.make page size n.val = .ok l ∧
      calls = [.query total, .query (d.limited l.start size)] ∧
        outcome = (recordsIn m T (x.query (d.limited l.start size) (x.query total world).2).1).map
          (Page.mk l) := by
  cases run with
  | uncounted failed => cases count.symm.trans failed
  | refused _ unsized => exact absurd sized (Int.not_lt.mpr unsized)
  | empty again _ none =>
    obtain rfl := Except.ok.inj (count.symm.trans again)
    exact absurd some (Int.not_le.mpr none)
  | unselected _ _ _ failed => cases built.symm.trans failed
  | selected again _ _ rebuilt made =>
    obtain rfl := Except.ok.inj (count.symm.trans again)
    obtain rfl := Except.ok.inj (built.symm.trans rebuilt)
    exact ⟨_, made, rfl, rfl⟩

namespace Gateway

open Access

theorem paginate_runs (g : Gateway σ) (T : RecordType) (total : Statement)
    (data : Except StatementError Statement) {page : Int} (size : Int)
    (below : page < IntType.i64.hi) {fetch : Window → Access (σ × List Call) (List T.Carrier)}
    (fetches : ∀ w, fetch w =
      built data >>= fun d => g.recording.listOf T (d.limited w.start w.size))
    (session : Session (σ × List Call)) :
    TracesFrom session (paginate .statement page size (g.recording.countOf total) fetch)
      (PageRun g.executor (session.registry.mapper T).1 T session.world.1 total data page size) := by
  refine g.countOf_bind_tracesFrom total (fun e count => .uncounted count) fun n count => ?_
  cases made : Layout.make page size n.val with
  | error e =>
    obtain ⟨unsized, rfl⟩ := Layout.make_error made
    exact tracesFrom_throw (.refused count unsized)
  | ok l =>
    obtain ⟨sized, rfl⟩ := Layout.size_of_make made
    by_cases none : n.val < 1
    · simp only [none, if_true]
      exact tracesFrom_pure (.empty count sized none made)
    · have some : 1 ≤ n.val := Int.not_lt.mp none
      obtain ⟨multiple, first, last⟩ := Layout.start_of_make made some
      have within := Layout.make_within made n.property.2 (.inl below)
      simp only [none, if_false]
      rw [fetches]
      cases data with
      | error e => exact tracesFrom_throw (.unselected count sized some rfl)
      | ok d =>
        rw [built_ok_bind]
        refine ((g.listOf_tracesFrom T _ _).map (Page.mk l)).imp ?_
        rintro _ _ ⟨_, ⟨rfl, rfl⟩, rfl⟩
        exact .selected count sized some rfl made within multiple first last

/-! ### Pages of a filter -/

/-- What select statements have behind their head when the filter renders as `t`. -/
def selectClause (t : String) : String :=
  if t.isEmpty then "" else (if t.startsWith "order by" then "" else "where ") ++ t ++ " "

section Statements

variable {cs : List Criterion} {t : String}

theorem filtered_of_text (table : String) (rendered : Filter.text cs = .ok t) :
    ∃ select, Select.filtered { table := table } cs = .ok select ∧ select.table = table ∧
      select.columns = "*" ∧ select.counted = "*" ∧
        ∀ head, select.finish head = head ++ selectClause t := by
  rw [Select.filtered, rendered, selectClause]
  change ∃ select, (if t.isEmpty then _ else if t.startsWith "order by" then _ else _) = _ ∧ _
  by_cases nothing : t.isEmpty = true
  · rw [if_pos nothing, if_pos nothing]
    exact ⟨_, rfl, rfl, rfl, rfl, fun head => (String.append_empty).symm⟩
  · rw [if_neg nothing, if_neg nothing]
    by_cases orders : t.startsWith "order by" = true
    · rw [if_pos orders, if_pos orders]
      exact ⟨_, rfl, rfl, rfl, rfl, fun head => by
        simp [Select.finish, Select.push, Select.Clause.text, String.append_assoc]⟩
    · rw [if_neg orders, if_neg orders]
      exact ⟨_, rfl, rfl, rfl, rfl, fun head => by
        simp [Select.finish, Select.push, Select.Clause.text, String.append_assoc]⟩

theorem selection_of_text (table : String) (rendered : Filter.text cs = .ok t) :
    selection table cs =
      .ok ⟨"select * from " ++ table ++ " " ++ selectClause t, Filter.params cs⟩ := by
  obtain ⟨select, filtered, named, all, -, finished⟩ := filtered_of_text table rendered
  rw [selection, filtered, ← finished, ← named]
  change Except.ok (Statement.mk select.text _) = _
  rw [Select.text, all]
  rfl

theorem counting_of_text (table : String) (rendered : Filter.text cs = .ok t) :
    counting table cs =
      .ok ⟨"select count(*) from " ++ table ++ " " ++ selectClause t, Filter.params cs⟩ := by
  obtain ⟨select, filtered, named, -, all, finished⟩ := filtered_of_text table rendered
  rw [counting, filtered, ← finished, ← named]
  change Except.ok (Statement.mk select.countText _) = _
  rw [Select.countText, all]
  rfl

theorem counting_of_error (table : String) {e : StatementError} (failed : Filter.text cs = .error e) :
    counting table cs = .error e := by
  rw [counting, Select.filtered, failed]
  rfl

end Statements

/-- A page of a filter that does not render hands nothing over. Otherwise the same clause and the
same values stand in the statement that counts and in the one that selects. -/
theorem page_runs (g : Gateway σ) (T : RecordType) (page size : Int) (cs : List Criterion)
    (below : page < IntType.i64.hi) (session : Session (σ × List Call)) :
    TracesFrom session (g.recording.page T page size cs) fun outcome calls =>
      (∀ e, Filter.text cs = .error e → outcome = .error (.statement e) ∧ calls = []) ∧
      ∀ t, Filter.text cs = .ok t →
        PageRun g.executor (session.registry.mapper T).1 T session.world.1
          ⟨"select count(*) from " ++ g.tableOf T ++ " " ++ selectClause t, Filter.params cs⟩
          (.ok ⟨"select * from " ++ g.tableOf T ++ " " ++ selectClause t, Filter.params cs⟩)
          page size outcome calls := by
  change TracesFrom session (built (counting (g.tableOf T) cs) >>= fun total =>
    built (selection (g.tableOf T) cs) >>= fun data => g.recording.pageOf T total data page size) _
  cases rendered : Filter.text cs with
  | error e =>
    rw [counting_of_error _ rendered]
    refine built_bind_tracesFrom ?_ nofun
    intro e' failed
    obtain rfl := Except.error.inj failed
    exact ⟨fun e same => ⟨by rw [Except.error.inj same], rfl⟩, nofun⟩
  | ok t =>
    rw [counting_of_text _ rendered, selection_of_text _ rendered, built_ok_bind, built_ok_bind]
    have run := g.paginate_runs T
      ⟨"select count(*) from " ++ g.tableOf T ++ " " ++ selectClause t, Filter.params cs⟩
      (.ok ⟨"select * from " ++ g.tableOf T ++ " " ++ selectClause t, Filter.params cs⟩) size below
      (fun w => (built_ok_bind _ _).symm) session
    refine run.imp fun outcome calls run => ⟨nofun, ?_⟩
    intro t' same
    obtain rfl := Except.ok.inj same
    exact run

/-- Notes, on a script. -/
def notes : Gateway Script := { executor := Script.executor, table := "notes" }

/-- The script counts twenty-five notes, and then selects two. -/
def twentyFiveNotes : Session (Script × List Call) where
  world :=
    ({ answers := [.rows [⟨[("count(*)", .bigint ⟨25, by decide⟩)]⟩],
        .rows [⟨[("body", .text "x")]⟩, ⟨[("body", .text "y")]⟩]] }, [])

/-- Page nine of pages of ten is taken to the third page. -/
theorem page_runs_notes :
    (9 : Int) < IntType.i64.hi ∧
    ((notes.recording.page Sample.note.toRecordType 9 10
      [.compare .eq "body" (.text "a")]) twentyFiveNotes).2.world.2 =
        [.query ⟨"select count(*) from notes where body = ?  ", [.text "a"]⟩,
          .query ⟨"select * from notes where body = ?   limit 20,10", [.text "a"]⟩] := by
  have below : (9 : Int) < IntType.i64.hi := by decide
  obtain ⟨calls, grown, -, runs⟩ := page_runs notes Sample.note.toRecordType 9 10
    [.compare .eq "body" (.text "a")] below twentyFiveNotes
  have count : counted (notes.executor.query
    ⟨"select count(*) from notes where body = ?  ", [.text "a"]⟩ twentyFiveNotes.world.1).1 =
      .ok ⟨25, by decide⟩ := rfl
  have run := runs "body = ? " rfl
  have clause : selectClause "body = ? " = "where body = ?  " := by simp [selectClause]
  rw [clause] at run
  obtain ⟨l, made, rfl, -⟩ := run.selects count (by decide) (by decide) rfl
  obtain rfl := Except.ok.inj made
  exact ⟨below, grown⟩

/-! ### Pages of templates -/

/-- A page of templates expands the one that counts before it hands anything over. The one that
selects is expanded with the limit behind it, which comes to the same as adding the limit to what
it expands to. -/
theorem pageOfTemplates_runs (g : Gateway σ) (T : RecordType) (total data : String)
    (params : Bindings) (page size : Int) (below : page < IntType.i64.hi)
    (session : Session (σ × List Call)) :
    (∀ w : Window, Template.expand (data ++ w.limit) params =
      (Template.expand data params).map fun s => s.limited w.start w.size) ∧
    TracesFrom session (g.recording.pageOfTemplates T total data params page size)
      fun outcome calls =>
        (∀ e, Template.expand total params = .error e →
          outcome = .error (.statement e) ∧ calls = []) ∧
        ∀ t, Template.expand total params = .ok t →
          PageRun g.executor (session.registry.mapper T).1 T session.world.1 t
            (Template.expand data params) page size outcome calls := by
  have behind := Template.expand_limit data params
  refine ⟨behind, built_bind_tracesFrom ?_ ?_⟩
  · intro e failed
    refine ⟨fun e' same => ⟨by rw [Except.error.inj (failed.symm.trans same)], rfl⟩, fun t made => ?_⟩
    cases failed.symm.trans made
  · intro t made
    have fetches : ∀ w : Window,
        (built (Template.expand (data ++ w.limit) params) >>= g.recording.listOf T) =
          built (Template.expand data params) >>= fun d =>
            g.recording.listOf T (d.limited w.start w.size) := by
      intro w
      rw [behind]
      cases Template.expand data params <;> rfl
    refine (g.paginate_runs T t _ size below fetches session).imp fun outcome calls run => ⟨?_, ?_⟩
    · intro e failed
      cases made.symm.trans failed
    · intro t' same
      obtain rfl := Except.ok.inj (made.symm.trans same)
      exact run

/-- The limit stands right behind a name that is bound. -/
theorem pageOfTemplates_runs_notes :
    (9 : Int) < IntType.i64.hi ∧
    ((notes.recording.pageOfTemplates Sample.note.toRecordType "select count(*) from notes"
      "select * from notes where body = :body" ⟨[("body", .text "a")]⟩ 9 10)
        twentyFiveNotes).2.world.2 =
          [.query ⟨"select count(*) from notes", []⟩,
            .query ⟨"select * from notes where body = ? limit 20,10", [.text "a"]⟩] := by
  have below : (9 : Int) < IntType.i64.hi := by decide
  obtain ⟨-, calls, grown, -, runs⟩ := pageOfTemplates_runs notes Sample.note.toRecordType
    "select count(*) from notes" "select * from notes where body = :body"
    ⟨[("body", .text "a")]⟩ 9 10 below twentyFiveNotes
  have count : counted (notes.executor.query ⟨"select count(*) from notes", []⟩
    twentyFiveNotes.world.1).1 = .ok ⟨25, by decide⟩ := rfl
  have expanded : Template.expand "select * from notes where body = :body"
    ⟨[("body", .text "a")]⟩ = .ok ⟨"select * from notes where body = ?", [.text "a"]⟩ := rfl
  obtain ⟨l, made, rfl, -⟩ :=
    (runs ⟨"select count(*) from notes", []⟩ rfl).selects count (by decide) (by decide) expanded
  obtain rfl := Except.ok.inj made
  exact ⟨below, grown⟩

end Gateway

end SqlRecords
