import SqlRecords.Proofs.Access.Paged
import SqlRecords.Proofs.Filter.Text
import SqlRecords.Proofs.Paging.Limits

/-!
# Sizes of pages

A page with a total refuses a size below one before it selects. A page without a total does not
look at its size: `Gateway.pages_mindSize_iff` shows that it refuses such a size only where it
cannot build its statement at all, and hands over a limit with this size in all other cases.
-/

namespace SqlRecords

variable {σ α : Type}

/-- A count that was made. -/
structure Count where
  statement : Statement
  answer : Except AccessError I64

/-- The call makes the count. -/
def Count.MadeBy (c : Count) (call : Call) : Prop := call = .query c.statement

/-- The call selects some of what `data` selects: its limit does not begin before the first row and
leaves room for one. -/
def SelectsSome (data : Except StatementError Statement) (call : Call) : Prop :=
  ∃ s start rows, data = .ok s ∧ call = .query (s.limited start rows) ∧ 0 ≤ start ∧ 1 ≤ rows

/-- How a read of one page treats its size. All pages are selected by `data`, and a count may come
before. -/
structure MindsSize (data : Except StatementError Statement) (count : Option Count) (size : Int)
    (outcome : Except AccessError α) (calls : List Call) : Prop where
  limited : ∀ call ∈ calls, (∃ c ∈ count, c.MadeBy call) ∨ SelectsSome data call
  /-- A size below one ends the read before anything is selected. -/
  refused : size ≤ 0 → (∀ call ∈ calls, ∃ c ∈ count, c.MadeBy call) ∧
    ∃ e, outcome = .error e ∧
      ((∃ c ∈ count, c.answer = .error e) ∨ ∃ cause, e = .statement (.invalidArgument cause))

namespace MindsSize

variable {data : Except StatementError Statement} {count : Option Count} {size : Int}
  {outcome : Except AccessError α} {calls : List Call}

theorem of_sized (sized : 1 ≤ size)
    (limited : ∀ call ∈ calls, (∃ c ∈ count, c.MadeBy call) ∨ SelectsSome data call) :
    MindsSize data count size outcome calls where
  limited := limited
  refused unsized := by omega

theorem of_refused (cause : InvalidArgument)
    (counts : ∀ call ∈ calls, ∃ c ∈ count, c.MadeBy call) :
    MindsSize data count size
      (.error (.statement (.invalidArgument cause)) : Except AccessError α) calls where
  limited call member := .inl (counts call member)
  refused _ := ⟨counts, _, rfl, .inr ⟨cause, rfl⟩⟩

theorem of_uncounted {c : Count} {e : AccessError} (failed : c.answer = .error e) :
    MindsSize data (some c) size (.error e : Except AccessError α) [.query c.statement] where
  limited _ member := .inl ⟨c, rfl, List.mem_singleton.mp member⟩
  refused _ :=
    ⟨fun _ member => ⟨c, rfl, List.mem_singleton.mp member⟩, e, rfl, .inl ⟨c, rfl, failed⟩⟩

end MindsSize

namespace Gateway

open Access

variable {page size : Int} {cs : List Criterion}

/-! ### With a total -/

theorem pageOf_mindsSize (g : Gateway σ) (T : RecordType) (total data : Statement)
    (page size : Int) (session : Session (σ × List Call)) :
    TracesFrom session (g.recording.pageOf T total data page size)
      (MindsSize (.ok data) (some ⟨total, counted (g.executor.query total session.world.1).1⟩)
        size) := by
  refine g.countOf_bind_tracesFrom total (fun e failed => .of_uncounted failed) fun n count => ?_
  have counts : ∀ call ∈ [Call.query total], ∃ c ∈ some
      (Count.mk total (counted (g.executor.query total session.world.1).1)), c.MadeBy call :=
    fun _ member => ⟨_, rfl, List.mem_singleton.mp member⟩
  cases made : Layout.make page size n.val with
  | error e =>
    obtain ⟨-, rfl⟩ := Layout.make_error made
    exact tracesFrom_throw (.of_refused _ counts)
  | ok l =>
    obtain ⟨sized, rfl⟩ := Layout.size_of_make made
    by_cases none : n.val < 1
    · simp only [none, if_true]
      exact tracesFrom_pure (.of_sized sized fun call member => .inl (counts call member))
    · obtain ⟨-, first, -⟩ := Layout.start_of_make made (Int.not_lt.mp none)
      simp only [none, if_false]
      refine ((g.listOf_tracesFrom T _ _).map (Page.mk l)).imp ?_
      rintro _ _ ⟨_, ⟨rfl, -⟩, -⟩
      refine .of_sized sized fun call member => ?_
      obtain rfl | selects := List.mem_cons.mp member
      · exact .inl (counts _ List.mem_cons_self)
      · exact .inr ⟨data, l.start, l.size, rfl, List.mem_singleton.mp selects, first, sized⟩

/-- The count that a page of a filter is made with, unless the filter does not render. -/
def countBefore (g : Gateway σ) (table : String) (cs : List Criterion) (world : σ) : Option Count :=
  match counting table cs with
  | .error _ => none
  | .ok s => some ⟨s, counted (g.executor.query s world).1⟩

theorem page_mindsSize (g : Gateway σ) (T : RecordType) (page size : Int) (cs : List Criterion)
    (session : Session (σ × List Call)) :
    TracesFrom session (g.recording.page T page size cs)
      (MindsSize (selection (g.tableOf T) cs)
        (g.countBefore (g.tableOf T) cs session.world.1) size) := by
  change TracesFrom session (built (counting (g.tableOf T) cs) >>= fun total =>
    built (selection (g.tableOf T) cs) >>= fun data => g.recording.pageOf T total data page size) _
  unfold countBefore
  cases rendered : Filter.text cs with
  | error e =>
    obtain ⟨-, c, -, -, -, -, rfl⟩ := (Filter.text_error_iff cs e).mp rendered
    rw [counting_of_error _ rendered]
    refine built_bind_tracesFrom ?_ nofun
    intro e' failed
    obtain rfl := Except.error.inj failed
    exact .of_refused _ nofun
  | ok t =>
    rw [counting_of_text _ rendered, selection_of_text _ rendered, built_ok_bind, built_ok_bind]
    exact g.pageOf_mindsSize T _ _ page size session

/-! ### Without a total -/

/-- The statement of a page without a total is refused or handed over, whatever the size is. -/
theorem listOnPage_traces (g : Gateway σ) (T : RecordType) (page size : Int) (cs : List Criterion) :
    (g.recording.listOnPage T page size cs).Traces fun outcome calls =>
      match pageSelection (g.tableOf T) page size cs with
      | .error e => calls = [] ∧ outcome = .error (.statement e)
      | .ok s => calls = [.query s] := by
  change (built (pageSelection (g.tableOf T) page size cs) >>= g.recording.listOf T).Traces _
  cases pageSelection (g.tableOf T) page size cs with
  | error e => exact built_error_traces ⟨rfl, rfl⟩
  | ok s => exact built_ok_traces (g.listOf_traces T s)

theorem pageSelection_of_error {table : String} {e : StatementError}
    (failed : Filter.text cs = .error e) : pageSelection table page size cs = .error e := by
  rw [pageSelection, selection, Select.filtered, failed]
  rfl

theorem pageSelection_of_text {table t : String} (rendered : Filter.text cs = .ok t) :
    pageSelection table page size cs =
      if Fits ((max page 1 - 1) * size) then
        .ok (Statement.limited
          ⟨"select * from " ++ table ++ " " ++ selectClause t, Filter.params cs⟩
          ((max page 1 - 1) * size) size)
      else .error (.invalidArgument (.pageOutOfRange page size)) := by
  rw [pageSelection, selection_of_text _ rendered]
  split
  case isTrue fits =>
    rw [limitText_of_fits fits]
    rfl
  case isFalse beyond =>
    rw [limitText_of_not_fits beyond]
    rfl

theorem mindsSize_limited_iff (page : Int) {size : Int} {s : Statement}
    {outcome : Except AccessError α} :
    MindsSize (.ok s) none size outcome [.query (s.limited ((max page 1 - 1) * size) size)] ↔
      1 ≤ size := by
  constructor
  · intro minds
    by_contra unsized
    obtain ⟨_, nothing, -⟩ :=
      (minds.refused (Int.lt_add_one_iff.mp (Int.not_le.mp unsized))).1 _ List.mem_cons_self
    cases nothing
  · intro sized
    refine .of_sized sized fun call member =>
      .inr ⟨s, _, size, rfl, List.mem_singleton.mp member, ?_, sized⟩
    exact Int.mul_nonneg (by omega) (by omega)

/-- A page with a total minds its size. A page without one does so exactly if the size is not below
one or the statement cannot be built: the filter does not render, or the first row is not a 64-bit
number. Otherwise it hands the size over in a limit, as it is. -/
theorem pages_mindSize_iff (g : Gateway σ) (T : RecordType) (page size : Int)
    (cs : List Criterion) :
    (∀ session, TracesFrom session (g.recording.page T page size cs)
      (MindsSize (selection (g.tableOf T) cs)
        (g.countBefore (g.tableOf T) cs session.world.1) size)) ∧
    (g.recording.listOnPage T page size cs).Traces fun outcome calls =>
      (MindsSize (selection (g.tableOf T) cs) none size outcome calls ↔
        1 ≤ size ∨ (∃ e, Filter.text cs = .error e) ∨ ¬ Fits ((max page 1 - 1) * size)) ∧
      ∀ s, selection (g.tableOf T) cs = .ok s → Fits ((max page 1 - 1) * size) →
        calls = [.query (s.limited ((max page 1 - 1) * size) size)] := by
  refine ⟨g.page_mindsSize T page size cs, ?_⟩
  refine (g.listOnPage_traces T page size cs).imp fun outcome calls ran => ?_
  cases rendered : Filter.text cs with
  | error e =>
    obtain ⟨-, c, -, -, -, -, rfl⟩ := (Filter.text_error_iff cs e).mp rendered
    rw [pageSelection_of_error rendered] at ran
    obtain ⟨rfl, rfl⟩ := ran
    refine ⟨iff_of_true (.of_refused _ (List.forall_mem_nil _)) (.inr (.inl ⟨_, rfl⟩)),
      fun s made => ?_⟩
    rw [selection, Select.filtered, rendered] at made
    cases made
  | ok t =>
    have noError : ¬ ∃ e, (Except.ok t : Except StatementError String) = .error e := by
      rintro ⟨e, failed⟩
      cases failed
    rw [pageSelection_of_text rendered] at ran
    rw [selection_of_text _ rendered]
    by_cases fits : Fits ((max page 1 - 1) * size)
    · rw [if_pos fits] at ran
      obtain rfl := ran
      rw [mindsSize_limited_iff, or_iff_left (not_or.mpr ⟨noError, not_not_intro fits⟩)]
      refine ⟨Iff.rfl, fun s made _ => ?_⟩
      obtain rfl := Except.ok.inj made
      rfl
    · rw [if_neg fits] at ran
      obtain ⟨rfl, rfl⟩ := ran
      exact ⟨iff_of_true (.of_refused _ (List.forall_mem_nil _)) (.inr (.inr fits)),
        fun _ _ held => absurd held fits⟩

/-- Page three of pages of minus five rows is selected, from row minus ten on. -/
theorem listOnPage_belowZero_runs :
    let (outcome, after) := notes.listOnPage Sample.note.toRecordType 3 (-5) [] { world := {} }
    (∃ records, outcome = .ok records) ∧
      after.world.log = [.query ⟨"select * from notes  limit -10,-5", []⟩] ∧
      ¬ MindsSize (selection "notes" []) none (-5) outcome after.world.log := by
  refine ⟨⟨[], rfl⟩, rfl, fun minds => ?_⟩
  have sized : (1 : Int) ≤ -5 := (mindsSize_limited_iff 3).mp minds
  omega

end Gateway

end SqlRecords
