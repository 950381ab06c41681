import Mathlib.Data.Bool.Count
import Mathlib.Data.Finset.Card
import Mathlib.Data.List.Induction
import Mathlib.Data.List.TakeWhile
import SqlRecords.Memo

/-!
# What a memo remembers

The entries and counts of a memo are read off the calls since it was last cleared: the first entry
that was supplied for a key stays, and every question counts as a hit or as a miss.
`Memo.run_remembers` shows this for every history of a fresh memo.
-/

namespace SqlRecords.Memo

variable {κ α : Type} [DecidableEq κ]

/-! ### Single operations -/

section Operations

variable {m : Memo κ α} {key : κ} {b : α}

theorem get_of_some (found : m.find? key = some b) : m.get key = (some b, m.hit) := by
  rw [get, found]

theorem get_of_none (absent : m.find? key = none) : m.get key = (none, m.miss) := by
  rw [get, absent]

theorem publish_of_some (found : m.find? key = some b) (a : α) : m.publish key a = (b, m) := by
  rw [publish, found]

theorem publish_of_none (absent : m.find? key = none) (a : α) :
    m.publish key a = (a, { m with entries := m.entries ++ [(key, a)] }) := by
  rw [publish, absent]

theorem getOrInsert_of_some (found : m.find? key = some b) (a : α) :
    m.getOrInsert key a = (b, m.hit) := by
  unfold getOrInsert getOrCompute getOrComputeM
  rw [found]
  rfl

theorem getOrInsert_of_none (absent : m.find? key = none) (a : α) :
    m.getOrInsert key a = (a, { m.miss with entries := m.entries ++ [(key, a)] }) := by
  have missed : m.miss.find? key = none := absent
  unfold getOrInsert getOrCompute getOrComputeM
  rw [absent]
  show m.miss.publish key a = _
  rw [publish_of_none missed]
  rfl

end Operations

theorem getOrInsert_fst (m : Memo κ α) (key : κ) (a : α) :
    (m.getOrInsert key a).1 = (m.find? key).getD a := by
  cases found : m.find? key with
  | some b => rw [getOrInsert_of_some found, Option.getD_some]
  | none => rw [getOrInsert_of_none found, Option.getD_none]

theorem publish_fst (m : Memo κ α) (key : κ) (a : α) :
    (m.publish key a).1 = (m.find? key).getD a := by
  cases found : m.find? key with
  | some b => rw [publish_of_some found, Option.getD_some]
  | none => rw [publish_of_none found, Option.getD_none]

theorem find?_of_entries_append {m m' : Memo κ α} {added : List (κ × α)}
    (grown : m'.entries = m.entries ++ added) (key : κ) :
    m'.find? key =
      (m.find? key).or ((added.find? fun entry => entry.1 = key).map (·.2)) := by
  unfold find?
  rw [grown, List.find?_append, Option.map_or]

theorem find?_getOrInsert (m : Memo κ α) (key other : κ) (a : α) :
    (m.getOrInsert key a).2.find? other =
      (m.find? other).or (if key = other then some a else none) := by
  cases found : m.find? key with
  | some b =>
    rw [getOrInsert_of_some found]
    by_cases same : key = other
    · rw [if_pos same, ← same, found]
      exact found
    · rw [if_neg same, Option.or_none]
      rfl
  | none =>
    rw [getOrInsert_of_none found, find?_of_entries_append (m := m) rfl]
    by_cases same : key = other <;> simp [same]

/-! ### Histories -/

/-- What a memo may be asked or told. The computation for a missing entry leaves the memo alone and
gives `a`. -/
inductive Call (κ α : Type) where
  | get (key : κ)
  | getOrCompute (key : κ) (a : α)
  | publish (key : κ) (a : α)
  | contains (key : κ)
  | stats
  | clear

/-- What a memo answers. -/
inductive Answer (α : Type) where
  | entry (found : Option α)
  | kept (a : α)
  | present (b : Bool)
  | counts (s : MemoStats)
  | done

/-- One call. -/
def step (m : Memo κ α) : Call κ α → Answer α × Memo κ α
  | .get key => (.entry (m.get key).1, (m.get key).2)
  | .getOrCompute key a => (.kept (m.getOrInsert key a).1, (m.getOrInsert key a).2)
  | .publish key a => (.kept (m.publish key a).1, (m.publish key a).2)
  | .contains key => (.present (m.contains key), m)
  | .stats => (.counts m.stats, m)
  | .clear => (.done, m.clear)

/-- All calls of a history, with their answers. -/
def run (m : Memo κ α) : List (Call κ α) → List (Answer α) × Memo κ α
  | [] => ([], m)
  | call :: rest =>
    let (answer, m) := m.step call
    let (answers, m) := run m rest
    (answer :: answers, m)

theorem run_append (m : Memo κ α) (before after : List (Call κ α)) :
    m.run (before ++ after) =
      ((m.run before).1 ++ ((m.run before).2.run after).1, ((m.run before).2.run after).2) := by
  induction before generalizing m with
  | nil => rfl
  | cons call rest ih => simp only [List.cons_append, run, ih]

namespace Call

def clears : Call κ α → Bool
  | clear => true
  | _ => false

/-- The key that the call asks the entry of. -/
def asked? : Call κ α → Option κ
  | get key | getOrCompute key _ => some key
  | _ => none

/-- The entry that the call supplies, for a key that has none. -/
def supplied? : Call κ α → Option (κ × α)
  | getOrCompute key a | publish key a => some (key, a)
  | _ => none

end Call

/-- The calls since the memo was last cleared. -/
def recent (calls : List (Call κ α)) : List (Call κ α) :=
  (calls.reverse.takeWhile fun call => !call.clears).reverse

/-- The entries supplied since the memo was last cleared. -/
def supplies (calls : List (Call κ α)) : List (κ × α) := (recent calls).filterMap Call.supplied?

/-- The first entry that was supplied for a key since the memo was last cleared. -/
def firstSupplied (calls : List (Call κ α)) (key : κ) : Option α :=
  ((supplies calls).find? fun entry => entry.1 = key).map (·.2)

/-- For each question of the history, whether its key had an entry; `before` are the calls before
the history. -/
def outcomesFrom (before : List (Call κ α)) : List (Call κ α) → List Bool
  | [] => []
  | call :: rest =>
    (call.asked?.map fun key => (firstSupplied before key).isSome).toList ++
      outcomesFrom (before ++ [call]) rest

/-- For each question since the memo was last cleared, whether its key had an entry. -/
def outcomes (calls : List (Call κ α)) : List Bool := outcomesFrom [] (recent calls)

/-- The counts that belong to a history. -/
def countsAfter (calls : List (Call κ α)) : MemoStats where
  hits := (outcomes calls).count true
  misses := (outcomes calls).count false
  entries := ((supplies calls).map Prod.fst).toFinset.card

/-- The answer that a call has to be given behind a history. -/
def answerAfter (calls : List (Call κ α)) : Call κ α → Answer α
  | .get key => .entry (firstSupplied calls key)
  | .getOrCompute key a | .publish key a => .kept ((firstSupplied calls key).getD a)
  | .contains key => .present (firstSupplied calls key).isSome
  | .stats => .counts (countsAfter calls)
  | .clear => .done

/-! ### One more call -/

section Concat

variable {calls : List (Call κ α)} {call : Call κ α}

omit [DecidableEq κ] in
theorem recent_concat_of_clears (clears : call.clears = true) :
    recent (calls ++ [call]) = [] := by
  simp [recent, clears]

omit [DecidableEq κ] in
theorem recent_concat (keeps : call.clears = false) :
    recent (calls ++ [call]) = recent calls ++ [call] := by
  simp [recent, keeps]

omit [DecidableEq κ] in
theorem recent_recent (calls : List (Call κ α)) :
    recent (recent calls) = recent calls := by
  simp [recent, List.takeWhile_idem]

omit [DecidableEq κ] in
theorem supplies_concat (keeps : call.clears = false) :
    supplies (calls ++ [call]) = supplies calls ++ call.supplied?.toList := by
  rw [supplies, recent_concat keeps, List.filterMap_append, supplies]
  cases supplied : call.supplied? <;> simp [supplied]

theorem firstSupplied_concat (keeps : call.clears = false) (key : κ) :
    firstSupplied (calls ++ [call]) key =
      (firstSupplied calls key).or
        ((call.supplied?.toList.find? fun entry => entry.1 = key).map (·.2)) := by
  rw [firstSupplied, supplies_concat keeps, List.find?_append, Option.map_or, firstSupplied]

theorem outcomesFrom_append (before calls after : List (Call κ α)) :
    outcomesFrom before (calls ++ after) =
      outcomesFrom before calls ++ outcomesFrom (before ++ calls) after := by
  induction calls generalizing before with
  | nil => simp [outcomesFrom]
  | cons call rest ih => simp [outcomesFrom, ih]

theorem outcomes_concat (keeps : call.clears = false) :
    outcomes (calls ++ [call]) = outcomes calls ++
      (call.asked?.map fun key => (firstSupplied calls key).isSome).toList := by
  have same : ∀ key, firstSupplied (recent calls) key = firstSupplied calls key := by
    intro key
    rw [firstSupplied, supplies, recent_recent]
    rfl
  rw [outcomes, recent_concat keeps, outcomesFrom_append, outcomes]
  simp [outcomesFrom, same]

theorem length_outcomesFrom (before calls : List (Call κ α)) :
    (outcomesFrom before calls).length = calls.countP fun call => call.asked?.isSome := by
  induction calls generalizing before with
  | nil => rfl
  | cons call rest ih =>
    rw [outcomesFrom, List.length_append, ih, List.countP_cons]
    cases asked : call.asked? <;> simp [Nat.add_comm]

end Concat

/-! ### The state after a history -/

/-- The memo holds and counts what the history says. -/
structure Reflects (calls : List (Call κ α)) (m : Memo κ α) : Prop where
  entry : ∀ key, m.find? key = firstSupplied calls key
  apart : (m.entries.map Prod.fst).Nodup
  hits : m.hits = (outcomes calls).count true
  misses : m.misses = (outcomes calls).count false

theorem reflects_fresh (label : String) :
    Reflects ([] : List (Call κ α)) { label := label } :=
  ⟨fun _ => rfl, List.nodup_nil, rfl, rfl⟩

section Step

variable {m : Memo κ α} {call : Call κ α}

/-- A call that asks for a key counts one question. -/
theorem step_counts (keeps : call.clears = false) :
    (m.step call).2.hits =
        m.hits + (call.asked?.map fun key => (m.find? key).isSome).toList.count true ∧
      (m.step call).2.misses =
        m.misses + (call.asked?.map fun key => (m.find? key).isSome).toList.count false := by
  cases call with
  | get key =>
    unfold step
    cases found : m.find? key with
    | some b => simp [get_of_some found, hit, Call.asked?, found]
    | none => simp [get_of_none found, miss, Call.asked?, found]
  | getOrCompute key a =>
    unfold step
    cases found : m.find? key with
    | some b => simp [getOrInsert_of_some found, hit, Call.asked?, found]
    | none => simp [getOrInsert_of_none found, miss, Call.asked?, found]
  | publish key a =>
    unfold step
    cases found : m.find? key with
    | some b => simp [publish_of_some found, Call.asked?]
    | none => simp [publish_of_none found, Call.asked?]
  | contains key => simp [step, Call.asked?]
  | stats => simp [step, Call.asked?]
  | clear => cases keeps

/-- A call adds the entry that it supplies if the key has none. -/
theorem step_entries (keeps : call.clears = false) :
    (m.step call).2.entries =
      m.entries ++ call.supplied?.toList.filter fun entry => (m.find? entry.1).isNone := by
  cases call with
  | get key =>
    unfold step
    cases found : m.find? key with
    | some b => simp [get_of_some found, hit, Call.supplied?]
    | none => simp [get_of_none found, miss, Call.supplied?]
  | getOrCompute key a =>
    unfold step
    cases found : m.find? key with
    | some b => simp [getOrInsert_of_some found, hit, Call.supplied?, found]
    | none => simp [getOrInsert_of_none found, miss, Call.supplied?, found]
  | publish key a =>
    unfold step
    cases found : m.find? key with
    | some b => simp [publish_of_some found, Call.supplied?, found]
    | none => simp [publish_of_none found, Call.supplied?, found]
  | contains key => simp [step, Call.supplied?]
  | stats => simp [step, Call.supplied?]
  | clear => cases keeps

theorem find?_step (keeps : call.clears = false) (key : κ) :
    (m.step call).2.find? key =
      (m.find? key).or
        ((call.supplied?.toList.find? fun entry => entry.1 = key).map (·.2)) := by
  rw [find?_of_entries_append (step_entries keeps)]
  cases found : m.find? key with
  | some b => rw [Option.some_or, Option.some_or]
  | none =>
    cases supplied : call.supplied? with
    | none => rfl
    | some entry =>
      by_cases same : entry.1 = key
      · simp [same, found]
      · by_cases absent : (m.find? entry.1).isNone = true <;> simp [same, absent]

theorem mem_keys_iff (key : κ) :
    key ∈ m.entries.map Prod.fst ↔ (m.find? key).isSome = true := by
  rw [find?, Option.isSome_map, List.find?_isSome, List.mem_map]
  simp

/-- One call keeps the memo in step with the history. -/
theorem Reflects.step {calls : List (Call κ α)} (reflects : Reflects calls m)
    (call : Call κ α) : Reflects (calls ++ [call]) (m.step call).2 := by
  cases clears : call.clears with
  | true =>
    obtain rfl : call = .clear := by
      cases call <;> first | rfl | cases clears
    have nothing : recent (calls ++ [.clear]) = [] := recent_concat_of_clears clears
    have fresh : Reflects ([] : List (Call κ α)) m.clear := reflects_fresh m.label
    refine ⟨fun key => ?_, fresh.apart, ?_, ?_⟩
    · rw [firstSupplied, supplies, nothing]
      rfl
    · rw [outcomes, nothing]
      rfl
    · rw [outcomes, nothing]
      rfl
  | false =>
    obtain ⟨hits, misses⟩ := step_counts (m := m) clears
    have present : (fun key => (m.find? key).isSome) =
        fun key => (firstSupplied calls key).isSome :=
      funext fun key => congrArg Option.isSome (reflects.entry key)
    rw [present] at hits misses
    refine ⟨fun key => ?_, ?_, ?_, ?_⟩
    · rw [find?_step clears, firstSupplied_concat clears, reflects.entry]
    · rw [step_entries clears, List.map_append]
      refine List.Nodup.append reflects.apart ?_ ?_
      · cases supplied : call.supplied? with
        | none => exact List.nodup_nil
        | some entry => by_cases absent : (m.find? entry.1).isNone = true <;> simp [absent]
      · -- An entry is added only for a key without one.
        intro key old new
        obtain ⟨entry, added, rfl⟩ := List.mem_map.mp new
        have absent := (List.mem_filter.mp added).2
        have found := (mem_keys_iff entry.1).mp old
        rw [Option.isNone_iff_eq_none] at absent
        rw [absent] at found
        cases found
    · rw [hits, reflects.hits, outcomes_concat clears, List.count_append]
    · rw [misses, reflects.misses, outcomes_concat clears, List.count_append]

end Step

/-- A history keeps the memo in step with it. -/
theorem reflects_run (label : String) (calls : List (Call κ α)) :
    Reflects calls (run { label := label } calls).2 := by
  induction calls using List.reverseRecOn with
  | nil => exact reflects_fresh label
  | append_singleton calls call ih =>
    rw [run_append]
    exact ih.step call

section Reflects

variable {calls : List (Call κ α)} {m : Memo κ α}

theorem Reflects.stats_eq (reflects : Reflects calls m) : m.stats = countsAfter calls := by
  have keys : (m.entries.map Prod.fst).toFinset = ((supplies calls).map Prod.fst).toFinset := by
    ext key
    rw [List.mem_toFinset, List.mem_toFinset, mem_keys_iff, reflects.entry, firstSupplied,
      Option.isSome_map, List.find?_isSome, List.mem_map]
    simp
  have size : m.size = ((supplies calls).map Prod.fst).toFinset.card := by
    rw [← keys, List.toFinset_card_of_nodup reflects.apart, List.length_map, size]
  rw [stats, reflects.hits, reflects.misses, size, countsAfter]

theorem Reflects.answer_eq (reflects : Reflects calls m) (call : Call κ α) :
    (m.step call).1 = answerAfter calls call := by
  cases call with
  | get key =>
    show Answer.entry (m.get key).1 = .entry (firstSupplied calls key)
    rw [← reflects.entry key]
    cases found : m.find? key with
    | some b => rw [get_of_some found]
    | none => rw [get_of_none found]
  | getOrCompute key a =>
    show Answer.kept (m.getOrInsert key a).1 = .kept ((firstSupplied calls key).getD a)
    rw [getOrInsert_fst, reflects.entry]
  | publish key a =>
    show Answer.kept (m.publish key a).1 = .kept ((firstSupplied calls key).getD a)
    rw [publish_fst, reflects.entry]
  | contains key =>
    show Answer.present (m.find? key).isSome = .present (firstSupplied calls key).isSome
    rw [reflects.entry]
  | stats =>
    show Answer.counts m.stats = .counts (countsAfter calls)
    rw [reflects.stats_eq]
  | clear => rfl

end Reflects

theorem length_run_answers (m : Memo κ α) (calls : List (Call κ α)) :
    (m.run calls).1.length = calls.length := by
  induction calls generalizing m with
  | nil => rfl
  | cons call rest ih => simp [run, ih]

/-- Each answer of a history is the one that the calls before it lead to. -/
theorem answer_at (label : String) (before after : List (Call κ α)) (call : Call κ α) :
    (run { label := label } (before ++ call :: after)).1[before.length]? =
      some (answerAfter before call) := by
  have length := length_run_answers { label := label } before
  rw [run_append, List.getElem?_append_right (by omega), length, Nat.sub_self,
    ← (reflects_run label before).answer_eq call]
  rfl

omit [DecidableEq κ] in
theorem supplies_append (calls later : List (Call κ α))
    (kept : ∀ call ∈ later, call.clears = false) :
    supplies (calls ++ later) = supplies calls ++ later.filterMap Call.supplied? := by
  induction later generalizing calls with
  | nil => simp
  | cons call rest ih =>
    obtain ⟨keeps, others⟩ := List.forall_mem_cons.mp kept
    rw [List.append_cons, ih _ others, supplies_concat keeps]
    cases supplied : call.supplied? <;> simp [supplied]

/-- The first entry of a key stays the first until the memo is cleared. -/
theorem firstSupplied_append {calls later : List (Call κ α)}
    (kept : ∀ call ∈ later, call.clears = false) {key : κ} {a : α}
    (first : firstSupplied calls key = some a) : firstSupplied (calls ++ later) key = some a := by
  rw [firstSupplied, supplies_append calls later kept, List.find?_append, Option.map_or]
  rw [firstSupplied] at first
  rw [first, Option.some_or]

/-- A computation runs exactly if its key has no entry; its result becomes the entry. -/
theorem getOrComputeM_eq {μ : Type → Type} [Monad μ] [LawfulMonad μ] (m : Memo κ α) (key : κ)
    (compute : μ α) :
    m.getOrComputeM key (fun m => (fun a => (a, m)) <$> compute) =
      match m.find? key with
      | some a => pure (a, m.hit)
      | none => (fun a => m.getOrInsert key a) <$> compute := by
  rw [getOrComputeM]
  cases found : m.find? key with
  | some a => rfl
  | none =>
    have missed : m.miss.find? key = none := found
    simp only [bind_pure_comp, Functor.map_map, publish_of_none missed, getOrInsert_of_none found]
    rfl

/-- What a fresh memo has answered and holds after a history. -/
structure Remembers (label : String) (calls : List (Call κ α)) : Prop where
  /-- Each call is answered with the entries and the counts of the calls before it. -/
  answers : ∀ before call after, calls = before ++ call :: after →
    (run { label := label } calls).1[before.length]? = some (answerAfter before call)
  entry : ∀ key, (run { label := label } calls).2.find? key = firstSupplied calls key
  /-- An entry stays until the memo is cleared. -/
  stays : ∀ key a later, firstSupplied calls key = some a →
    (∀ call ∈ later, call.clears = false) → firstSupplied (calls ++ later) key = some a
  /-- A computation, whatever its effects, runs if its key has no entry, and otherwise not. -/
  computes : ∀ (μ : Type → Type) [Monad μ] [LawfulMonad μ] (key : κ) (compute : μ α),
    (run { label := label } calls).2.getOrComputeM key (fun m => (fun a => (a, m)) <$> compute) =
      match firstSupplied calls key with
      | some a => pure (a, ((run { label := label } calls).2.step (.get key)).2)
      | none => (fun a =>
          (a, ((run { label := label } calls).2.step (.getOrCompute key a)).2)) <$> compute
  counts : (run { label := label } calls).2.stats = countsAfter calls
  /-- Every question since the last clearing counts once. -/
  questions : (countsAfter calls).lookups =
    (recent calls).countP fun call => call.asked?.isSome

/-- After any history of a fresh memo, the entry of a key is the first one that was supplied for it
since the memo was last cleared. -/
theorem run_remembers (label : String) (calls : List (Call κ α)) : Remembers label calls := by
  have reflects := reflects_run label calls
  refine ⟨?_, reflects.entry, ?_, ?_, reflects.stats_eq, ?_⟩
  · rintro before call after rfl
    exact answer_at label before after call
  · intro key a later first kept
    exact firstSupplied_append kept first
  · intro μ _ _ key compute
    generalize (run { label := label } calls).2 = m at reflects
    rw [getOrComputeM_eq, reflects.entry]
    cases first : firstSupplied calls key with
    | some a =>
      have found := (reflects.entry key).trans first
      show pure (a, m.hit) = pure (a, (m.get key).2)
      rw [get_of_some found]
    | none =>
      have absent := (reflects.entry key).trans first
      show (fun a => m.getOrInsert key a) <$> compute =
        (fun a => (a, (m.getOrInsert key a).2)) <$> compute
      simp only [getOrInsert_of_none absent]
  · have total := List.count_true_add_count_false (outcomes calls)
    rw [outcomes, length_outcomesFrom] at total
    exact total

example :
    ((run {} [.publish "a" 1, .clear, .get "b", .publish "b" 2, .getOrCompute "b" 3, .stats] :
        List (Answer Nat) × Memo String Nat)).1 =
      [.kept 1, .done, .entry none, .kept 2, .kept 2, .counts ⟨1, 1, 1⟩] := rfl

end SqlRecords.Memo
