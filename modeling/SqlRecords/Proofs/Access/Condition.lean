import SqlRecords.Proofs.Access.Recording
import SqlRecords.Proofs.Statement.Built

/-!
# Conditions of writes

What stands behind the head of the delete and update statements that a gateway hands over. A filter
that only orders stands behind `where` all the same, which no condition follows.
-/

namespace SqlRecords

namespace Filter

variable {cs : List Criterion} {t : String}

theorem filter_eq_nil {p : Criterion → Prop} [DecidablePred p] :
    (cs.filter fun c => p c) = [] ↔ ∀ c ∈ cs, ¬ p c := by
  simp

theorem blank_predicates_iff :
    Text.blank (String.join ((predicates cs).map joined)) = true ↔ ∀ c ∈ cs, ¬ c.Live := by
  rw [← filter_eq_nil, predicates]
  cases cs.filter (·.Live) with
  | nil => exact iff_of_true rfl rfl
  | cons c rest =>
    have visible : Text.blank (joined (Joint.none, c)) = false := by
      rw [joined, blank_append, c.phrase_not_blank, Bool.and_false]
    rw [List.map_cons, String.join_cons, blank_append, visible, Bool.false_and]
    exact iff_of_false Bool.false_ne_true (List.cons_ne_nil c rest)

theorem blank_orderings_iff :
    Text.blank (spelledOrderings cs) = true ↔ ∀ c ∈ cs, ¬ c.Orders := by
  rw [← filter_eq_nil, spelledOrderings]
  cases cs.filter (·.Orders) with
  | nil => exact iff_of_true rfl rfl
  | cons c rest =>
    have visible : Text.blank "order by " = false := by decide
    rw [blank_append, blank_append, visible, Bool.false_and, Bool.false_and]
    exact iff_of_false Bool.false_ne_true (List.cons_ne_nil c rest)

theorem blank_text_iff (rendered : text cs = .ok t) :
    Text.blank t = true ↔ (∀ c ∈ cs, ¬ c.Live) ∧ ∀ c ∈ cs, ¬ c.Orders := by
  obtain ⟨-, rfl⟩ := (text_ok_iff cs t).mp rendered
  rw [blank_append, Bool.and_eq_true, blank_predicates_iff, blank_orderings_iff]

/-- Without predicates the text is that of the orderings. -/
theorem text_eq_orderings (rendered : text cs = .ok t) (noPredicate : ∀ c ∈ cs, ¬ c.Live) :
    t = spelledOrderings cs := by
  obtain ⟨-, rfl⟩ := (text_ok_iff cs t).mp rendered
  rw [predicates, filter_eq_nil.mpr noPredicate]
  exact String.empty_append

theorem spelledOrderings_eq_empty (unordered : ∀ c ∈ cs, ¬ c.Orders) :
    spelledOrderings cs = "" := by
  rw [spelledOrderings, filter_eq_nil.mpr unordered]

theorem spelledOrderings_starts (ordered : ¬ ∀ c ∈ cs, ¬ c.Orders) :
    ∃ rest, spelledOrderings cs = "order by " ++ rest := by
  rw [← filter_eq_nil] at ordered
  rw [spelledOrderings]
  cases filtered : cs.filter (·.Orders) with
  | nil => exact absurd filtered ordered
  | cons c rest => exact ⟨_, String.append_assoc⟩

/-! ### Behind the keyword -/

/-- What delete and update statements have behind their head when the filter renders as `t`: the
keyword stands before whatever takes part. -/
def clause (cs : List Criterion) (t : String) : String :=
  if (∀ c ∈ cs, ¬ c.Live) ∧ ∀ c ∈ cs, ¬ c.Orders then "" else "where " ++ t

/-- The clause whose keyword stands before predicates only. -/
def dueClause (cs : List Criterion) (t : String) : String :=
  if ∃ c ∈ cs, c.Live then "where " ++ t else t

theorem clause_eq (rendered : text cs = .ok t) :
    clause cs t = if Text.blank t then "" else "where " ++ t := by
  simp only [clause, blank_text_iff rendered]

theorem where_ne (t : String) : "where " ++ t ≠ t := by
  intro same
  have lengths := congrArg String.length same
  rw [String.length_append] at lengths
  have keyword : "where ".length = 6 := rfl
  omega

theorem clause_eq_dueClause_iff (rendered : text cs = .ok t) :
    clause cs t = dueClause cs t ↔ (∃ c ∈ cs, c.Live) ∨ ∀ c ∈ cs, ¬ c.Orders := by
  rw [clause, dueClause]
  by_cases predicate : ∃ c ∈ cs, c.Live
  · obtain ⟨c, member, live⟩ := predicate
    have taking : ¬ ((∀ c ∈ cs, ¬ c.Live) ∧ ∀ c ∈ cs, ¬ c.Orders) :=
      fun nothing => nothing.1 c member live
    rw [if_neg taking, if_pos ⟨c, member, live⟩]
    exact iff_of_true rfl (.inl ⟨c, member, live⟩)
  · have noPredicate : ∀ c ∈ cs, ¬ c.Live := fun c member live => predicate ⟨c, member, live⟩
    rw [if_neg predicate, or_iff_right predicate]
    by_cases unordered : ∀ c ∈ cs, ¬ c.Orders
    · rw [if_pos ⟨noPredicate, unordered⟩, text_eq_orderings rendered noPredicate,
        spelledOrderings_eq_empty unordered]
      exact iff_of_true rfl unordered
    -- Only orderings take part: the keyword stands before a text that should go without it.
    · rw [if_neg fun nothing => unordered nothing.2]
      exact iff_of_false (where_ne t) unordered

end Filter

namespace Gateway

open Access

variable {σ : Type} {cs : List Criterion} {t : String}

theorem build_of_text (rendered : Filter.text cs = .ok t) :
    Filter.build cs = .ok ⟨t, Filter.params cs⟩ := by
  rw [Filter.build, rendered]
  rfl

theorem deletion_of_text (table : String) (rendered : Filter.text cs = .ok t) :
    deletion table cs =
      .ok ⟨"delete from " ++ table ++ " " ++ Filter.clause cs t, Filter.params cs⟩ := by
  have condition : deleteTextWhere table t =
      "delete from " ++ table ++ " " ++ Filter.clause cs t := by
    rw [Filter.clause_eq rendered, deleteTextWhere, deleteText]
    split
    · rw [String.append_empty]
    · simp only [String.append_assoc]
  rw [deletion, build_of_text rendered, ← condition]
  rfl

theorem updating_of_text (table : String) (a : Assignments) (rendered : Filter.text cs = .ok t) :
    updating table a cs =
      .ok ⟨"update " ++ table ++ " set " ++ a.phrase ++ " " ++ Filter.clause cs t ++ " ",
        a.params ++ Filter.params cs⟩ := by
  have condition : ((Update.table table).set a.phrase).whereText t =
      "update " ++ table ++ " set " ++ a.phrase ++ " " ++ Filter.clause cs t ++ " " := by
    rw [Filter.clause_eq rendered, Update.whereText, Update.set, Update.table]
    split
    · rw [String.append_empty]
    · simp only [String.append_assoc]
  rw [updating, build_of_text rendered, ← condition]
  rfl

/-- The select statement of a filter that only orders does without the keyword. -/
theorem selection_of_orderings (table : String) (rendered : Filter.text cs = .ok t)
    (noPredicate : ∀ c ∈ cs, ¬ c.Live) (ordered : ¬ ∀ c ∈ cs, ¬ c.Orders) :
    selection table cs =
      .ok ⟨"select * from " ++ table ++ " " ++ Filter.dueClause cs t ++ " ",
        Filter.params cs⟩ := by
  obtain ⟨rest, same⟩ := Filter.spelledOrderings_starts ordered
  rw [← Filter.text_eq_orderings rendered noPredicate] at same
  have starts : t.startsWith "order by" = true := by
    rw [String.startsWith_string_iff, same, String.toList_append]
    exact ⟨' ' :: rest.toList, rfl⟩
  have present : t.isEmpty = false := by
    rw [same]
    simp
  have pushed : Select.filtered { table := table } cs =
      .ok { table := table, clauses := [.ordering t] } := by
    rw [Select.filtered, rendered]
    change (if t.isEmpty then _ else if t.startsWith "order by" then _ else _) = _
    rw [present, if_neg Bool.false_ne_true, if_pos starts]
    rfl
  have shown : Select.text { table := table, clauses := [.ordering t] } =
      "select * from " ++ table ++ " " ++ Filter.dueClause cs t ++ " " := by
    have due : Filter.dueClause cs t = t :=
      if_neg fun ⟨c, member, live⟩ => noPredicate c member live
    have clauses : String.join [t] = t := by
      rw [String.join_cons, String.join_nil, String.append_empty]
    rw [due, ← clauses]
    rfl
  rw [selection, pushed, ← shown]
  rfl

/-- Deleting and updating by a filter that renders hand over one statement, with `where` before
whatever takes part in the filter. So `where` stands before predicates only, unless orderings take
part and no predicate does. -/
theorem writes_behind_where (g : Gateway σ) (a : Assignments) (cs : List Criterion) (t : String)
    (rendered : Filter.text cs = .ok t) :
    (g.recording.delete cs).Traces (fun _ calls => calls =
      [.execute ⟨"delete from " ++ g.table ++ " " ++ Filter.clause cs t, Filter.params cs⟩]) ∧
    (g.recording.update a cs).Traces (fun _ calls => calls =
      [.execute ⟨"update " ++ g.table ++ " set " ++ a.phrase ++ " " ++ Filter.clause cs t ++ " ",
        a.params ++ Filter.params cs⟩]) ∧
    (Filter.clause cs t = Filter.dueClause cs t ↔
      (∃ c ∈ cs, c.Live) ∨ ∀ c ∈ cs, ¬ c.Orders) := by
  refine ⟨?_, ?_, Filter.clause_eq_dueClause_iff rendered⟩
  · change (built (deletion g.table cs) >>= g.recording.affected).Traces _
    rw [deletion_of_text g.table rendered]
    exact built_ok_traces (g.affected_traces _)
  · change (built (updating g.table a cs) >>= g.recording.affected).Traces _
    rw [updating_of_text g.table a rendered]
    exact built_ok_traces (g.affected_traces _)

/-- A gateway to a table of orders, on an empty script. -/
def orders : Gateway Script := { executor := Script.executor, table := "orders" }

def customerFirst : List Criterion :=
  [.bare .descending "created", .compare .eq "customer" (.text "ann")]

theorem writes_behind_where_customer :
    Filter.text customerFirst = .ok "customer = ? order by created desc " ∧
    (orders.recording.delete customerFirst).Traces (fun _ calls => calls =
      [.execute ⟨"delete from " ++ orders.table ++ " " ++
        Filter.clause customerFirst "customer = ? order by created desc ",
        Filter.params customerFirst⟩]) ∧
    Filter.clause customerFirst "customer = ? order by created desc " =
      "where customer = ? order by created desc " := by
  have rendered : Filter.text customerFirst = .ok "customer = ? order by created desc " := rfl
  obtain ⟨deletes, -, -⟩ := writes_behind_where orders ⟨[("state", .text "open")]⟩ customerFirst _
    rendered
  exact ⟨rendered, deletes, rfl⟩

/-- A filter that only orders: the delete statement has `where` before it, which is not due and
which the select statement of the same filter does not have. -/
theorem orderOnly_behind_where :
    Filter.text [.bare .descending "created"] = .ok "order by created desc " ∧
    (∀ c ∈ [Criterion.bare .descending "created"], ¬ c.Live) ∧
    (orders.delete [.bare .descending "created"] { world := {} }).2.world.log =
      [.execute ⟨"delete from orders where order by created desc ", []⟩] ∧
    selection "orders" [.bare .descending "created"] =
      .ok ⟨"select * from orders order by created desc  ", []⟩ := by
  have rendered : Filter.text [.bare .descending "created"] = .ok "order by created desc " := rfl
  have noPredicate : ∀ c ∈ [Criterion.bare .descending "created"], ¬ c.Live := by decide
  have ordered : ¬ ∀ c ∈ [Criterion.bare .descending "created"], ¬ c.Orders := by decide
  exact ⟨rendered, noPredicate, rfl, selection_of_orderings "orders" rendered noPredicate ordered⟩

end Gateway

end SqlRecords
