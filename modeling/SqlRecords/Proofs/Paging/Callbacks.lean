import SqlRecords.Proofs.Outcome
import SqlRecords.Proofs.Paging.Windows

/-!
# Callbacks of pages

A page is made by two callbacks, which run to their end at once or wait in between. `Paginated` says
which of them are called and how the page ends; `paginate_calls` shows that both forms keep to it,
and that they agree.
-/

namespace SqlRecords

/-! ### Waiting -/

/-- A computation that may wait. Each time it is taken up again it is told something. -/
inductive Deferred (ω α : Type) where
  | done (a : α)
  | wait (rest : ω → Deferred ω α)

namespace Deferred

variable {ω α β : Type}

def bind : Deferred ω α → (α → Deferred ω β) → Deferred ω β
  | .done a, f => f a
  | .wait rest, f => .wait fun told => (rest told).bind f

instance : Monad (Deferred ω) where
  pure := .done
  bind := bind

/-- The task ends with `a`, whatever it is told while it waits. -/
def Gives : Deferred ω α → α → Prop
  | .done b, a => b = a
  | .wait rest, a => ∀ told, (rest told).Gives a

theorem Gives.bind {t : Deferred ω α} {f : α → Deferred ω β} {a : α} {b : β} (first : t.Gives a)
    (goesOn : (f a).Gives b) : (t >>= f).Gives b := by
  induction t with
  | done a' =>
    obtain rfl : a' = a := first
    exact goesOn
  | wait rest ih => exact fun told => ih told (first told)

end Deferred

/-! ### Running a computation -/

/-- What it is for a computation to end: `Ends s x a s'` if `x` starts in the state `s`, gives `a` and
leaves the state `s'`. -/
structure Observation (m : Type → Type) [Monad m] (S : Type) where
  Ends : ∀ {α : Type}, S → m α → α → S → Prop
  pure : ∀ {α : Type} (s : S) (a : α), Ends s (pure a) a s
  bind : ∀ {α β : Type} {s s' s'' : S} {x : m α} {f : α → m β} {a : α} {b : β},
    Ends s x a s' → Ends s' (f a) b s'' → Ends s (x >>= f) b s''

namespace Observation

/-- Running at once, on a state. -/
def atOnce (σ : Type) : Observation (StateM σ) σ where
  Ends s x a s' := x s = (a, s')
  pure _ _ := rfl
  bind first goesOn := (bind_run first).trans goesOn

/-- Waiting as often as it takes. -/
def waiting (ω : Type) : Observation (Deferred ω) Unit where
  Ends _ t a _ := t.Gives a
  pure _ _ := rfl
  bind first goesOn := first.bind goesOn

variable {m : Type → Type} [Monad m] {S ε α β : Type} {s s' s'' : S}

/-- Beside the state, what is written to a list. -/
def listing (o : Observation m S) (κ : Type) : Observation (StateT (List κ) m) (S × List κ) where
  Ends s x a s' := o.Ends s.1 (x.run s.2) (a, s'.2) s'.1
  pure s a := o.pure s.1 (a, s.2)
  bind first goesOn := o.bind first goesOn

theorem bind_ok (o : Observation m S) {x : ExceptT ε m α} {f : α → ExceptT ε m β} {a : α}
    {r : Except ε β} (first : o.Ends s x.run (.ok a) s') (goesOn : o.Ends s' (f a).run r s'') :
    o.Ends s (x >>= f).run r s'' := o.bind first goesOn

theorem bind_error (o : Observation m S) {x : ExceptT ε m α} {f : α → ExceptT ε m β} {e : ε}
    (failed : o.Ends s x.run (.error e) s') : o.Ends s (x >>= f).run (.error e) s' :=
  o.bind failed (o.pure s' (Except.error e))

theorem map_run (o : Observation m S) (f : α → β) {x : ExceptT ε m α} {r : Except ε α}
    (ended : o.Ends s x.run r s') : o.Ends s (f <$> x).run (r.map f) s' := by
  refine o.bind ended ?_
  cases r with
  | error e => exact o.pure s' (Except.error e)
  | ok a => exact o.pure s' (Except.ok (f a))

end Observation

/-! ### How a page ends -/

section Page

variable {m : Type → Type} [Monad m] {S ε α : Type}

/-- How a page ends and the window that it fetches, if the count gives `counted` and each window what
`fetched` says. -/
def pageEnd (refuse : StatementError → ε) (page size : Int) (counted : Except ε I64)
    (fetched : Window → Except ε (List α)) : Except ε (Page α) × Option Window :=
  match counted with
  | .error e => (.error e, none)
  | .ok total =>
    match Layout.make page size total.val with
    | .error e => (.error (refuse e), none)
    | .ok l =>
      if total.val < 1 then (.ok ⟨l, []⟩, none)
      else ((fetched l.window).map (Page.mk l), some l.window)

variable {refuse : StatementError → ε} {page size : Int} {counted : Except ε I64}
  {fetched : Window → Except ε (List α)}

theorem paginate_ends (o : Observation m S) {count : ExceptT ε m Int}
    {fetch : Window → ExceptT ε m (List α)} {s behindCount : S} {behindFetch : Window → S}
    (counts : o.Ends s count.run (counted.map Subtype.val) behindCount)
    (fetches : ∀ w, o.Ends behindCount (fetch w).run (fetched w) (behindFetch w)) :
    o.Ends s (paginate refuse page size count fetch).run
      (pageEnd refuse page size counted fetched).1
      ((pageEnd refuse page size counted fetched).2.elim behindCount behindFetch) := by
  unfold paginate pageEnd
  -- Nothing is called any more behind a failed count, a refused size or a total of zero.
  cases counted with
  | error e => exact o.bind_error counts
  | ok total =>
    dsimp only
    refine o.bind_ok counts ?_
    cases made : Layout.make page size total.val with
    | error e => exact o.pure _ (Except.error (refuse e))
    | ok l =>
      by_cases none : total.val < 1
      · simp only [if_pos none]
        exact o.pure _ (Except.ok (Page.mk l []))
      · simp only [if_neg none]
        have ended := fetches l.window
        cases given : fetched l.window with
        | error e =>
          rw [given] at ended
          exact o.bind_error ended
        | ok items =>
          rw [given] at ended
          exact o.bind_ok ended (o.pure _ (Except.ok (Page.mk l items)))

end Page

/-! ### Calls -/

inductive PageCall where
  | count
  | fetch (w : Window)
  deriving DecidableEq

/-- The calls of a page, if it fetches this window or none. -/
def callsOf (fetched : Option Window) : List PageCall := .count :: fetched.toList.map .fetch

section Calls

variable {m : Type → Type} [Monad m] {S ε α β : Type}

/-- The callback, which writes down first that it is called. -/
def noting (call : PageCall) (act : ExceptT ε m β) : ExceptT ε (StateT (List PageCall) m) β :=
  ExceptT.mk do
    modify (· ++ [call])
    StateT.lift act.run

/-- The page over callbacks that write down their calls: how it ends, and the calls in order. -/
def paginateNoting (refuse : StatementError → ε) (page size : Int) (count : ExceptT ε m I64)
    (fetch : Window → ExceptT ε m (List α)) : m (Except ε (Page α) × List PageCall) :=
  (paginate refuse page size (noting .count (Subtype.val <$> count)) fun w =>
    noting (.fetch w) (fetch w)).run.run []

theorem noting_ends (o : Observation m S) {act : ExceptT ε m β} {r : Except ε β} {s s' : S}
    (ended : o.Ends s act.run r s') (call : PageCall) (calls : List PageCall) :
    (o.listing PageCall).Ends (s, calls) (noting call act).run r (s', calls ++ [call]) :=
  o.bind (o.pure s ((), calls ++ [call])) (o.bind ended (o.pure s' (r, calls ++ [call])))

variable {refuse : StatementError → ε} {page size : Int} {counted : Except ε I64}
  {fetched : Window → Except ε (List α)}

theorem paginateNoting_ends (o : Observation m S) {count : ExceptT ε m I64}
    {fetch : Window → ExceptT ε m (List α)} {s behindCount : S} {behindFetch : Window → S}
    (counts : o.Ends s count.run counted behindCount)
    (fetches : ∀ w, o.Ends behindCount (fetch w).run (fetched w) (behindFetch w)) :
    o.Ends s (paginateNoting refuse page size count fetch)
      ((pageEnd refuse page size counted fetched).1,
        callsOf (pageEnd refuse page size counted fetched).2)
      ((pageEnd refuse page size counted fetched).2.elim behindCount behindFetch) := by
  have ended : (o.listing PageCall).Ends (s, [])
      (paginate refuse page size (noting .count (Subtype.val <$> count)) fun w =>
        noting (.fetch w) (fetch w)).run (pageEnd refuse page size counted fetched).1 _ :=
    paginate_ends (o.listing PageCall) (noting_ends o (o.map_run Subtype.val counts) .count [])
      fun w => noting_ends o (fetches w) (.fetch w) [.count]
  cases window : (pageEnd refuse page size counted fetched).2 with
  | none =>
    rw [window] at ended
    exact ended
  | some w =>
    rw [window] at ended
    exact ended

end Calls

/-- What a page calls and how it ends, if the count ends as `counted` and each window as `fetched`
says. -/
structure Paginated {ε α : Type} (refuse : StatementError → ε) (page size : I64)
    (counted : Except ε I64) (fetched : Window → Except ε (List α))
    (outcome : Except ε (Page α)) (calls : List PageCall) : Prop where
  counts : ∃ later, calls = .count :: later ∧ .count ∉ later ∧ later.length ≤ 1
  fetches : ∀ w, .fetch w ∈ calls ↔ ∃ total l, counted = .ok total ∧ 1 ≤ total.val ∧
    1 ≤ size.val ∧ Layout.make page.val size.val total.val = .ok l ∧ l.Within ∧ l.window = w
  uncounted : ∀ e, counted = .error e → outcome = .error e
  unsized : ∀ total, counted = .ok total → size.val < 1 →
    outcome = .error (refuse (.invalidArgument (.pageSize size.val)))
  empty : ∀ total, counted = .ok total → 1 ≤ size.val → total.val < 1 →
    ∃ l, Layout.make page.val size.val total.val = .ok l ∧ outcome = .ok ⟨l, []⟩
  unfetched : ∀ w e, .fetch w ∈ calls → fetched w = .error e → outcome = .error e
  filled : ∀ w items, .fetch w ∈ calls → fetched w = .ok items →
    ∃ total l, counted = .ok total ∧ Layout.make page.val size.val total.val = .ok l ∧
      l.window = w ∧ outcome = .ok ⟨l, items⟩

section Paginated

variable {ε α σ ω : Type} {refuse : StatementError → ε} {page size : I64}
  {counted : Except ε I64} {fetched : Window → Except ε (List α)} {total : I64} {l : Layout}
  {w : Window}

theorem mem_callsOf_iff {window : Option Window} : .fetch w ∈ callsOf window ↔ window = some w := by
  simp [callsOf]

theorem pageEnd_unsized (unsized : size.val < 1) :
    pageEnd refuse page.val size.val (.ok total) fetched =
      (.error (refuse (.invalidArgument (.pageSize size.val))), none) := by
  have refused : Layout.make page.val size.val total.val =
      .error (.invalidArgument (.pageSize size.val)) := if_pos (Int.le_of_lt_add_one unsized)
  simp only [pageEnd, refused]

theorem pageEnd_made (made : Layout.make page.val size.val total.val = .ok l) :
    pageEnd refuse page.val size.val (.ok total) fetched =
      if total.val < 1 then (.ok ⟨l, []⟩, none)
      else ((fetched l.window).map (Page.mk l), some l.window) := by
  simp only [pageEnd, made]

theorem pageEnd_window_iff :
    (pageEnd refuse page.val size.val counted fetched).2 = some w ↔
      ∃ total l, counted = .ok total ∧ 1 ≤ total.val ∧
        Layout.make page.val size.val total.val = .ok l ∧ l.window = w := by
  cases counted with
  | error e => simp [pageEnd]
  | ok total =>
    simp only [Except.ok.injEq, exists_and_left, exists_eq_left']
    cases made : Layout.make page.val size.val total.val with
    | error e => simp [pageEnd, made]
    | ok l =>
      rw [pageEnd_made made]
      by_cases none : total.val < 1
      · rw [if_pos none]
        simp only [reduceCtorEq, false_iff, not_and]
        intro some
        exact absurd none (Int.not_lt.mpr some)
      · rw [if_neg none]
        simp [Int.not_lt.mp none]

theorem pageEnd_fetched (fetches : (pageEnd refuse page.val size.val counted fetched).2 = some w) :
    ∃ total l, counted = .ok total ∧ Layout.make page.val size.val total.val = .ok l ∧
      l.window = w ∧
        (pageEnd refuse page.val size.val counted fetched).1 = (fetched w).map (Page.mk l) := by
  obtain ⟨total, l, rfl, some, made, rfl⟩ := pageEnd_window_iff.mp fetches
  refine ⟨total, l, rfl, made, rfl, ?_⟩
  rw [pageEnd_made made, if_neg (Int.not_lt.mpr some)]

theorem pageEnd_paginated (refuse : StatementError → ε) (below : page.val < IntType.i64.hi)
    (counted : Except ε I64) (fetched : Window → Except ε (List α)) :
    Paginated refuse page size counted fetched
      (pageEnd refuse page.val size.val counted fetched).1
      (callsOf (pageEnd refuse page.val size.val counted fetched).2) := by
  constructor
  case counts =>
    refine ⟨_, rfl, by simp, ?_⟩
    cases (pageEnd refuse page.val size.val counted fetched).2 <;> simp
  case fetches =>
    intro w
    rw [mem_callsOf_iff, pageEnd_window_iff]
    constructor
    · rintro ⟨total, l, given, some, made, shown⟩
      have within := Layout.make_within made total.property.2 (.inl below)
      exact ⟨total, l, given, some, (Layout.size_of_make made).1, made, within, shown⟩
    · rintro ⟨total, l, given, some, -, made, -, shown⟩
      exact ⟨total, l, given, some, made, shown⟩
  case uncounted =>
    rintro e rfl
    rfl
  case unsized =>
    rintro total rfl unsized
    rw [pageEnd_unsized unsized]
  case empty =>
    rintro total rfl sized none
    have made : Layout.make page.val size.val total.val = .ok _ := Layout.make_of_pos sized
    refine ⟨_, made, ?_⟩
    rw [pageEnd_made made, if_pos none]
  case unfetched =>
    intro w e called failed
    obtain ⟨_, l, -, -, -, outcome⟩ := pageEnd_fetched (mem_callsOf_iff.mp called)
    rw [outcome, failed]
    rfl
  case filled =>
    intro w items called given
    obtain ⟨total, l, counts, made, shown, outcome⟩ := pageEnd_fetched (mem_callsOf_iff.mp called)
    refine ⟨total, l, counts, made, shown, ?_⟩
    rw [outcome, given]
    rfl

/-- A page counts first, and fetches a window if there are rows and the size of a page is positive.
Noting the calls changes neither its end nor what its callbacks do. The same outcomes of callbacks
that wait give the same calls and the same end. -/
theorem paginate_calls (refuse : StatementError → ε) (page size : I64)
    (below : page.val < IntType.i64.hi) (count : ExceptT ε (StateM σ) I64)
    (fetch : Window → ExceptT ε (StateM σ) (List α)) (s : σ) :
    ∃ outcome calls after,
      paginateNoting refuse page.val size.val count fetch s = ((outcome, calls), after) ∧
      paginate refuse page.val size.val (Subtype.val <$> count) fetch s = (outcome, after) ∧
      Paginated refuse page size (count s).1 (fun w => (fetch w (count s).2).1) outcome calls ∧
      ∀ (awaitedCount : ExceptT ε (Deferred ω) I64)
        (awaitedFetch : Window → ExceptT ε (Deferred ω) (List α)),
        awaitedCount.run.Gives (count s).1 →
        (∀ w, (awaitedFetch w).run.Gives (fetch w (count s).2).1) →
        (paginateNoting refuse page.val size.val awaitedCount awaitedFetch).Gives
          (outcome, calls) := by
  have counts : (Observation.atOnce σ).Ends s count.run (count s).1 (count s).2 := rfl
  have fetches (w : Window) : (Observation.atOnce σ).Ends (count s).2 (fetch w).run
      (fetch w (count s).2).1 (fetch w (count s).2).2 := rfl
  refine ⟨_, _, _, paginateNoting_ends _ counts fetches,
    paginate_ends _ (Observation.map_run _ Subtype.val counts) fetches,
    pageEnd_paginated refuse below _ _, fun awaitedCount awaitedFetch given gives => ?_⟩
  have awaited : (Observation.waiting ω).Ends () awaitedCount.run (count s).1 () := given
  have fetched (w : Window) : (Observation.waiting ω).Ends () (awaitedFetch w).run
      (fetch w (count s).2).1 () := gives w
  exact paginateNoting_ends (Observation.waiting ω) awaited fetched

def countTwentyOne : ExceptT StatementError (StateM Nat) I64 :=
  fun s => (.ok ⟨21, by decide⟩, s + 1)

def fetchStart (w : Window) : ExceptT StatementError (StateM Nat) (List Int) :=
  fun s => (.ok [w.start], s + 1)

def awaitTwentyOne : ExceptT StatementError (Deferred Unit) I64 :=
  Deferred.wait fun _ => .wait fun _ => .done (.ok ⟨21, by decide⟩)

def awaitStart (w : Window) : ExceptT StatementError (Deferred Unit) (List Int) :=
  Deferred.wait fun _ => .done (.ok [w.start])

/-- The last of three pages, by callbacks that run at once and by some that wait. -/
theorem paginate_calls_lastPage :
    (9 : Int) < IntType.i64.hi ∧ awaitTwentyOne.run.Gives (countTwentyOne 0).1 ∧
    (∀ w, (awaitStart w).run.Gives (fetchStart w (countTwentyOne 0).2).1) ∧
    paginateNoting id 9 10 countTwentyOne fetchStart 0 =
      ((.ok ⟨Layout.ofPage 3 10 21, [20]⟩, [.count, .fetch ⟨20, 3, 10⟩]), 2) ∧
    (paginateNoting id 9 10 awaitTwentyOne awaitStart).Gives
      (.ok ⟨Layout.ofPage 3 10 21, [20]⟩, [.count, .fetch ⟨20, 3, 10⟩]) := by
  have below : (9 : Int) < IntType.i64.hi := by decide
  have counts : awaitTwentyOne.run.Gives (countTwentyOne 0).1 := fun _ _ => rfl
  have fetches (w : Window) : (awaitStart w).run.Gives (fetchStart w (countTwentyOne 0).2).1 :=
    fun _ => rfl
  have ran : paginateNoting id 9 10 countTwentyOne fetchStart 0 =
      ((.ok ⟨Layout.ofPage 3 10 21, [20]⟩, [.count, .fetch ⟨20, 3, 10⟩]), 2) := rfl
  obtain ⟨outcome, calls, after, same, -, -, agrees⟩ :=
    paginate_calls id ⟨9, by decide⟩ ⟨10, by decide⟩ below countTwentyOne fetchStart 0
  obtain ⟨rfl, rfl⟩ := Prod.mk.inj (congrArg Prod.fst (same.symm.trans ran))
  exact ⟨below, counts, fetches, ran, agrees _ _ counts fetches⟩

end Paginated

end SqlRecords
