import Mathlib.Data.List.ReduceOption
import SqlRecords.Statement.Select
import SqlRecords.Proofs.Filter.Text
import SqlRecords.Proofs.Outcome

/-!
# Clauses of a select statement

A select statement gathers clauses in the order of calls. Each is written with a blank behind it,
but for a condition that is given as text: `Select.clauses_apart_iff` shows that the clauses of a
statement stand apart exactly when such a condition brings its own blank or is the last clause.
-/

namespace SqlRecords

/-! ### Texts that end in a blank -/

/-- A blank is the last character. -/
def EndsBlank (s : String) : Prop := s.toList.getLast? = some ' '

instance : DecidablePred EndsBlank := fun s =>
  inferInstanceAs (Decidable (s.toList.getLast? = some ' '))

theorem EndsBlank.append {t : String} (ends : EndsBlank t) (s : String) : EndsBlank (s ++ t) := by
  rw [EndsBlank, String.toList_append, List.getLast?_append, ends]
  rfl

theorem endsBlank_append_iff {t : String} (present : t ≠ "") (s : String) :
    EndsBlank (s ++ t) ↔ EndsBlank t := by
  rw [EndsBlank, EndsBlank, String.toList_append, List.getLast?_append]
  cases last : t.toList.getLast? with
  | none => exact absurd (by simpa using last) present
  | some c => rfl

theorem endsBlank_join {pieces : List String} (each : ∀ p ∈ pieces, EndsBlank p)
    (present : String.join pieces ≠ "") : EndsBlank (String.join pieces) := by
  induction pieces with
  | nil => exact absurd rfl present
  | cons p rest ih =>
    rw [String.join_cons]
    by_cases last : String.join rest = ""
    · rw [last, String.append_empty]
      exact each p List.mem_cons_self
    · exact (ih (fun q member => each q (List.mem_cons_of_mem p member)) last).append p

theorem Criterion.endsBlank_phrase (c : Criterion) : EndsBlank c.phrase := by
  rw [phrase]
  cases c.operator <;> exact EndsBlank.append (by decide) _

namespace Filter

theorem endsBlank_spelledOrderings {cs : List Criterion} (present : spelledOrderings cs ≠ "") :
    EndsBlank (spelledOrderings cs) := by
  rw [spelledOrderings] at present ⊢
  cases filtered : cs.filter (·.Orders) with
  | nil =>
    rw [filtered] at present
    exact absurd rfl present
  | cons c rest =>
    have first : EndsBlank ("order by " ++ c.phrase) := c.endsBlank_phrase.append _
    have later : ∀ p ∈ rest.map fun c => ", " ++ c.phrase, EndsBlank p := by
      intro p member
      obtain ⟨o, -, rfl⟩ := List.mem_map.mp member
      exact o.endsBlank_phrase.append _
    by_cases alone : String.join (rest.map fun c => ", " ++ c.phrase) = ""
    · simpa only [alone, String.append_empty] using first
    · exact (endsBlank_join later alone).append _

/-- Whatever takes part in a filter is written with a blank behind it. -/
theorem endsBlank_text {cs : List Criterion} {t : String} (rendered : text cs = .ok t)
    (present : t ≠ "") : EndsBlank t := by
  obtain ⟨-, rfl⟩ := (text_ok_iff cs t).mp rendered
  by_cases unordered : spelledOrderings cs = ""
  · rw [unordered, String.append_empty] at present ⊢
    refine endsBlank_join (fun p member => ?_) present
    obtain ⟨⟨joint, c⟩, -, rfl⟩ := List.mem_map.mp member
    exact c.endsBlank_phrase.append _
  · exact (endsBlank_spelledOrderings unordered).append _

end Filter

namespace Select

/-! ### Calls -/

/-- What a clause begins with, unless it is a condition. -/
inductive Keyword where
  | leftJoin | rightJoin | innerJoin | on | groupBy | having

def Keyword.text : Keyword → String
  | leftJoin => "left join"
  | rightJoin => "right join"
  | innerJoin => "inner join"
  | on => "on"
  | groupBy => "group by"
  | having => "having"

/-- A call that gives a statement one more clause, or none. -/
inductive Call where
  | phrase (keyword : Keyword) (body : String)
  | whereText (condition : String)
  | filtered (cs : List Criterion)

def step (s : Select) : Call → Except StatementError Select
  | .phrase keyword body => .ok (s.phrase keyword.text body)
  | .whereText condition => .ok (s.whereText condition)
  | .filtered cs => s.filtered cs

/-- The statement after the calls, up to the first that fails. -/
def run (s : Select) (calls : List Call) : Except StatementError Select := calls.foldlM step s

namespace Call

/-- The clause that a call gives, if it gives one. -/
def clause? : Call → Except StatementError (Option Clause)
  | phrase keyword body => .ok (some (.phrase keyword.text body))
  | whereText condition => .ok (if Text.blank condition then none else some (.condition condition))
  | filtered cs => (Filter.text cs).map fun t =>
    if t.isEmpty then none
    else if t.startsWith "order by" then some (.ordering t)
    else some (.condition t)

/-- The call gives a clause. -/
def Gives (call : Call) : Prop := ∃ c, call.clause? = .ok (some c)

end Call

theorem step_eq (s : Select) (call : Call) :
    s.step call =
      call.clause?.map fun c => { s with clauses := s.clauses ++ c.toList } := by
  cases call with
  | phrase keyword body => rfl
  | whereText condition =>
    rw [step, whereText, Call.clause?]
    cases Text.blank condition <;> simp [push, Except.map]
  | filtered cs =>
    rw [step, filtered, Call.clause?]
    cases Filter.text cs with
    | error e => rfl
    | ok t =>
      simp only [Except.map, bind, Except.bind, pure, Except.pure]
      by_cases nothing : t.isEmpty = true
      · simp [nothing]
      · by_cases orders : t.startsWith "order by" = true <;> simp [nothing, orders, push]

/-- The calls give their clauses in order. -/
theorem run_eq (s : Select) (calls : List Call) :
    s.run calls = (calls.mapM Call.clause?).map fun cs =>
      { s with clauses := s.clauses ++ cs.reduceOption } := by
  induction calls generalizing s with
  | nil => simp [run, Except.map, pure, Except.pure]
  | cons call rest ih =>
    rw [run, List.foldlM_cons, List.mapM_cons, step_eq]
    cases first : call.clause? with
    | error e => rfl
    | ok c =>
      change run { s with clauses := s.clauses ++ c.toList } rest = _
      rw [ih]
      cases rest.mapM Call.clause? with
      | error e => rfl
      | ok cs => cases c <;> simp [Except.map, bind, Except.bind, pure, Except.pure]

/-! ### Blanks between clauses -/

/-- A blank stands before every clause but the first. -/
def Apart (clauses : List Clause) : Prop := ∀ c ∈ clauses.dropLast, EndsBlank c.text

/-- Each condition that is given as text ends in a blank, or no clause follows it. -/
def BringsBlanks (calls : List Call) : Prop :=
  ∀ before condition after, calls = before ++ .whereText condition :: after →
    Text.blank condition = false → (∃ call ∈ after, call.Gives) → EndsBlank condition

theorem endsBlank_clause {call : Call} {c : Clause} (gives : call.clause? = .ok (some c)) :
    EndsBlank c.text ↔
      ∀ condition, call = .whereText condition → EndsBlank condition := by
  cases call with
  | phrase keyword body =>
    obtain rfl := Option.some.inj (Except.ok.inj gives)
    exact iff_of_true (EndsBlank.append (by decide) _) nofun
  | whereText condition =>
    simp only [Call.clause?] at gives
    cases blank : Text.blank condition with
    | true => simp [blank] at gives
    | false =>
      rw [blank] at gives
      obtain rfl := Option.some.inj (Except.ok.inj gives)
      have present : condition ≠ "" := by
        rintro rfl
        cases blank
      refine (endsBlank_append_iff present "where ").trans ?_
      simp
  | filtered cs =>
    refine iff_of_true ?_ nofun
    obtain ⟨t, rendered, made⟩ := map_ok gives
    by_cases nothing : t.isEmpty = true
    · rw [if_pos nothing] at made
      cases made
    · rw [if_neg nothing] at made
      have ends := Filter.endsBlank_text rendered (by simpa using nothing)
      split at made
      · obtain rfl := Option.some.inj made
        exact ends
      · obtain rfl := Option.some.inj made
        exact ends.append "where "

theorem bringsBlanks_cons {call : Call} {rest : List Call} :
    BringsBlanks (call :: rest) ↔
      (∀ condition, call = .whereText condition → Text.blank condition = false →
        (∃ later ∈ rest, later.Gives) → EndsBlank condition) ∧ BringsBlanks rest := by
  constructor
  · intro brings
    refine ⟨fun condition here => brings [] condition rest (by rw [here, List.nil_append]), ?_⟩
    rintro before condition after rfl
    exact brings (call :: before) condition after rfl
  · rintro ⟨here, later⟩ before condition after split
    cases before with
    | nil =>
      obtain ⟨rfl, rfl⟩ := List.cons.inj split
      exact here condition rfl
    | cons first before =>
      obtain ⟨-, split⟩ := List.cons.inj split
      exact later before condition after split

theorem gives_iff {calls : List Call} {cs : List (Option Clause)}
    (given : List.Forall₂ (fun call c => call.clause? = .ok c) calls cs) :
    (∃ call ∈ calls, call.Gives) ↔ cs.reduceOption ≠ [] := by
  induction given with
  | nil => simp
  | @cons call c calls cs here _ ih =>
    simp only [List.mem_cons, exists_eq_or_imp, ih]
    cases c <;> simp [Call.Gives, here]

/-- The clauses of calls stand apart exactly when the conditions among them see to it. -/
theorem apart_iff {calls : List Call} {cs : List (Option Clause)}
    (given : List.Forall₂ (fun call c => call.clause? = .ok c) calls cs) :
    Apart cs.reduceOption ↔ BringsBlanks calls := by
  induction given with
  | nil => exact iff_of_true nofun fun before _ _ split => by cases before <;> cases split
  | @cons call c calls cs here later ih =>
    rw [bringsBlanks_cons, ← ih, gives_iff later]
    cases c with
    -- A call that gives no clause is no condition that is visible.
    | none =>
      rw [List.reduceOption_cons_of_none]
      refine (and_iff_right fun condition same visible => ?_).symm
      rw [same, Call.clause?, visible] at here
      cases here
    | some c =>
      rw [List.reduceOption_cons_of_some]
      have ends := endsBlank_clause here
      -- The last clause has nothing to stand apart from.
      cases more : cs.reduceOption with
      | nil => exact iff_of_true nofun ⟨fun _ _ _ none => absurd rfl none, nofun⟩
      | cons next others =>
        have visible : ∀ condition, call = .whereText condition →
            Text.blank condition = false := by
          rintro condition rfl
          by_contra blank
          rw [Call.clause?, if_pos (by simpa using blank)] at here
          cases here
        rw [Apart, List.dropLast_cons_cons, List.forall_mem_cons, ends]
        refine and_congr_left fun _ => ⟨fun all condition same _ _ => all condition same, ?_⟩
        intro all condition same
        exact all condition same (visible condition same) (List.cons_ne_nil next others)

theorem clause?_error {call : Call} {e : StatementError} (failed : call.clause? = .error e) :
    ∃ cs, call = .filtered cs ∧ Filter.text cs = .error e := by
  cases call with
  | phrase keyword body => cases failed
  | whereText condition => cases failed
  | filtered cs => exact ⟨cs, rfl, map_error failed⟩

/-- How the clauses of calls stand in the statement that they make. -/
structure Assembled (calls : List Call) (made : Select) : Prop where
  /-- The clauses stand in the order of the calls that give them. -/
  ordered : ∃ cs, List.Forall₂ (fun call c => call.clause? = .ok c) calls cs ∧
    made.clauses = cs.reduceOption
  text : made.text = "select " ++ made.columns ++ " from " ++ made.table ++ " " ++
    String.join (made.clauses.map Clause.text) ++ if made.clauses = [] then "" else " "
  countText : made.countText = "select count(" ++ made.counted ++ ") from " ++ made.table ++ " " ++
    String.join (made.clauses.map Clause.text) ++ if made.clauses = [] then "" else " "
  apart : Apart made.clauses ↔ BringsBlanks calls

theorem finish_eq (s : Select) (head : String) :
    s.finish head =
      head ++ String.join (s.clauses.map Clause.text) ++ if s.clauses = [] then "" else " " := by
  rw [finish]
  cases s.clauses with
  | nil => simp
  | cons c rest => simp

/-- Calls make a statement unless a filter among them cannot be rendered. Its clauses stand behind
the head in the order of the calls; each ends in a blank before the next one exactly if the
conditions that are given as text do. -/
theorem clauses_apart_iff (s : Select) (calls : List Call) :
    match { s with clauses := [] }.run calls with
    | .ok made => Assembled calls made
    | .error e => ∃ before cs after, calls = before ++ .filtered cs :: after ∧
        (∀ call ∈ before, ∃ c, call.clause? = .ok c) ∧ Filter.text cs = .error e := by
  rw [run_eq]
  cases ran : calls.mapM Call.clause? with
  | ok cs =>
    have given := forall₂_of_mapM ran
    exact ⟨⟨cs, given, List.nil_append _⟩, finish_eq _ _, finish_eq _ _, apart_iff given⟩
  | error e =>
    obtain ⟨before, call, after, split, earlier, failed⟩ := mapM_error_iff.mp ran
    obtain ⟨cs, rfl, unrendered⟩ := clause?_error failed
    exact ⟨before, cs, after, split, earlier, unrendered⟩

/-- A condition that is given as text runs into the clause behind it. -/
theorem whereText_runs_into_groupBy :
    run { table := "orders" } [.whereText "status = ?", .phrase .groupBy "customer"] =
      .ok { table := "orders"
            clauses := [.condition "status = ?", .phrase "group by" "customer"] } ∧
    text { table := "orders"
           clauses := [.condition "status = ?", .phrase "group by" "customer"] } =
      "select * from orders where status = ?group by customer  " ∧
    ¬ Apart [.condition "status = ?", .phrase "group by" "customer"] := by
  refine ⟨rfl, rfl, fun apart => ?_⟩
  have ends := apart (.condition "status = ?") (by simp)
  exact absurd ends (by decide)

end Select

end SqlRecords
