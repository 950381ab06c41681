import SqlRecords.Proofs.Access.Condition

/-!
# The keyword of a filter

A select statement tells by the first characters of a rendered filter whether it needs the keyword
`where`. `Select.filtered_keyword` shows that this goes right unless a field begins like an ordering:
no operator behind a field can complete it to the start of one.
-/

namespace SqlRecords

/-! ### How a filter begins -/

/-- No operator begins as the second word of `order by` does. -/
theorem Criterion.phrase_tail (c : Criterion) :
    ∃ w, c.phrase.toList = c.field.toList ++ ' ' :: w ∧ ∀ more, ¬ "by".toList <+: w ++ more := by
  unfold phrase
  cases c.operator <;> simp [String.toList_append]

theorem orderBy_prefix_iff {field w : List Char} (other : ¬ "by".toList <+: w) :
    "order by".toList <+: field ++ ' ' :: w ↔ "order by".toList <+: field := by
  refine ⟨?_, fun starts => starts.trans (List.prefix_append field _)⟩
  rintro ⟨rest, split⟩
  obtain ⟨more, rfl, -⟩ | ⟨back, whole, behind⟩ := List.append_eq_append_iff.mp split
  · exact List.prefix_append _ more
  cases back with
  | nil =>
    have same : "order by".toList = field := whole.trans (List.append_nil field)
    exact ⟨[], by rw [List.append_nil]; exact same⟩
  -- The blank behind the field would be that of `order by`, and the second word the operator.
  | cons blank back =>
    obtain ⟨rfl, rfl⟩ := List.cons.inj behind
    have cut : field = "order".toList ∧ back = "by".toList := by
      simpa [List.cons_eq_append_iff] using whole
    exact absurd (cut.2 ▸ List.prefix_append back rest) other

namespace Filter

variable {cs : List Criterion} {t : String}

/-- With a predicate the text begins as the field of the first one does. -/
theorem startsWith_orderBy_iff {c : Criterion} {rest : List Criterion}
    (rendered : text cs = .ok t) (live : cs.filter (·.Live) = c :: rest) :
    t.startsWith "order by" = true ↔ c.field.startsWith "order by" = true := by
  obtain ⟨-, rfl⟩ := (text_ok_iff cs t).mp rendered
  obtain ⟨w, spelled, other⟩ := c.phrase_tail
  simp only [String.startsWith_string_iff, predicates, live, List.map_cons, String.join_cons, joined,
    Joint.text, String.empty_append, String.toList_append, spelled, List.append_assoc,
    List.cons_append]
  rw [orderBy_prefix_iff (other _)]

theorem text_isEmpty_iff (rendered : text cs = .ok t) :
    t.isEmpty = true ↔ (∀ c ∈ cs, ¬ c.Live) ∧ ∀ c ∈ cs, ¬ c.Orders := by
  rw [← blank_text_iff rendered, String.isEmpty_iff]
  refine ⟨fun empty => by rw [empty]; rfl, fun blank => ?_⟩
  obtain ⟨noPredicate, unordered⟩ := (blank_text_iff rendered).mp blank
  rw [text_eq_orderings rendered noPredicate, spelledOrderings_eq_empty unordered]

/-- The text begins like an ordering if nothing but orderings takes part. -/
theorem startsWith_orderBy_iff_orders (rendered : text cs = .ok t) (present : t.isEmpty = false)
    (named : ∀ c ∈ cs, c.field.startsWith "order by" = false) :
    t.startsWith "order by" = true ↔ ∀ c ∈ cs, ¬ c.Live := by
  cases live : cs.filter (·.Live) with
  | nil =>
    have noPredicate := filter_eq_nil.mp live
    have ordered : ¬ ∀ c ∈ cs, ¬ c.Orders := fun unordered => by
      have empty := (text_isEmpty_iff rendered).mpr ⟨noPredicate, unordered⟩
      rw [present] at empty
      cases empty
    obtain ⟨rest, spelled⟩ := spelledOrderings_starts ordered
    refine iff_of_true ?_ noPredicate
    rw [text_eq_orderings rendered noPredicate, spelled, String.startsWith_string_iff,
      String.toList_append]
    exact ⟨' ' :: rest.toList, rfl⟩
  | cons c rest =>
    have member : c ∈ cs ∧ c.Live := by
      have listed : c ∈ cs.filter (·.Live) := by
        rw [live]
        exact List.mem_cons_self
      simpa using listed
    rw [startsWith_orderBy_iff rendered live, named c member.1]
    exact iff_of_false Bool.false_ne_true fun noPredicate => noPredicate c member.1 member.2

end Filter

namespace Select

/-- What stands behind the head of the statement. -/
def written (s : Select) : String := String.join (s.clauses.map Clause.text)

theorem written_push (s : Select) (clause : Clause) :
    (s.push clause).written = s.written ++ clause.text := by
  unfold written push
  rw [List.map_append, String.join_append, List.map_singleton, String.join_cons, String.join_nil,
    String.append_empty]

theorem push_ne (s : Select) (clause : Clause) : s.push clause ≠ s := by
  intro same
  have lengths := congrArg (fun made : Select => made.clauses.length) same
  simp [push] at lengths

variable {s : Select} {cs : List Criterion} {t : String}

theorem filtered_eq (s : Select) (rendered : Filter.text cs = .ok t) :
    s.filtered cs = .ok (if t.isEmpty then s
      else if t.startsWith "order by" then s.push (.ordering t) else s.push (.condition t)) := by
  unfold filtered
  rw [rendered]
  change (if t.isEmpty then _ else if t.startsWith "order by" then _ else _) = _
  split
  · rfl
  · split
    · rfl
    · rfl

/-- What a statement gains from a filter that renders as `t`. -/
structure Gains (s made : Select) (cs : List Criterion) (t : String) : Prop where
  /-- The keyword stands before predicates. -/
  conditioned : made.written = s.written ++ ("where " ++ t) ↔ ∃ c ∈ cs, c.Live
  /-- Orderings alone stand without it. -/
  ordered : (made.written = s.written ++ t ∧ ∃ rest, t = "order by " ++ rest) ↔
    (∀ c ∈ cs, ¬ c.Live) ∧ ∃ c ∈ cs, c.Orders
  unchanged : made = s ↔ (∀ c ∈ cs, ¬ c.Live) ∧ ∀ c ∈ cs, ¬ c.Orders
  /-- Nothing but the clauses is touched, and none of them is lost. -/
  framed : made = { s with clauses := made.clauses } ∧ s.clauses <+: made.clauses

theorem Gains.condition (live : ∃ c ∈ cs, c.Live) : Gains s (s.push (.condition t)) cs t := by
  have predicate : ¬ ∀ c ∈ cs, ¬ c.Live := fun noPredicate =>
    let ⟨c, member, isLive⟩ := live
    noPredicate c member isLive
  have added : (s.push (.condition t)).written = s.written ++ ("where " ++ t) :=
    s.written_push (.condition t)
  constructor
  case conditioned => exact iff_of_true added live
  case ordered =>
    refine iff_of_false (fun bare => ?_) fun none => predicate none.1
    exact Filter.where_ne t ((String.append_right_inj _).mp (added.symm.trans bare.1))
  case unchanged => exact iff_of_false (s.push_ne _) fun none => predicate none.1
  case framed => exact ⟨rfl, List.prefix_append _ _⟩

theorem Gains.ordering (rendered : Filter.text cs = .ok t) (noPredicate : ∀ c ∈ cs, ¬ c.Live)
    (ordered : ¬ ∀ c ∈ cs, ¬ c.Orders) : Gains s (s.push (.ordering t)) cs t := by
  have added : (s.push (.ordering t)).written = s.written ++ t := s.written_push (.ordering t)
  have starts : ∃ rest, t = "order by " ++ rest := by
    rw [Filter.text_eq_orderings rendered noPredicate]
    exact Filter.spelledOrderings_starts ordered
  constructor
  case conditioned =>
    refine iff_of_false (fun keyword => ?_) fun ⟨c, member, live⟩ => noPredicate c member live
    exact Filter.where_ne t ((String.append_right_inj _).mp (added.symm.trans keyword)).symm
  case ordered =>
    refine iff_of_true ⟨added, starts⟩ ⟨noPredicate, ?_⟩
    simpa using ordered
  case unchanged => exact iff_of_false (s.push_ne _) fun none => ordered none.2
  case framed => exact ⟨rfl, List.prefix_append _ _⟩

theorem Gains.nothing (noPredicate : ∀ c ∈ cs, ¬ c.Live) (unordered : ∀ c ∈ cs, ¬ c.Orders)
    (empty : t = "") : Gains s s cs t := by
  subst empty
  constructor
  case conditioned =>
    refine iff_of_false (fun keyword => ?_) fun ⟨c, member, live⟩ => noPredicate c member live
    have same : s.written ++ "" = s.written ++ ("where " ++ "") := by
      rw [String.append_empty]
      exact keyword
    exact Filter.where_ne "" ((String.append_right_inj _).mp same).symm
  case ordered =>
    refine iff_of_false ?_ fun ⟨_, c, member, orders⟩ => unordered c member orders
    rintro ⟨-, rest, begun⟩
    simp at begun
  case unchanged => exact iff_of_true rfl ⟨noPredicate, unordered⟩
  case framed => exact ⟨rfl, List.prefix_refl _⟩

/-- A filter that renders brings the keyword `where` if a predicate takes part, and its own if only
orderings do. That the first characters of the text tell this takes fields that do not begin with
`order by`; a field may be named `order`, whatever operator stands behind it. -/
theorem filtered_keyword (s : Select) (rendered : Filter.text cs = .ok t)
    (named : ∀ c ∈ cs, c.field.startsWith "order by" = false) :
    ∃ made, s.filtered cs = .ok made ∧ Gains s made cs t := by
  refine ⟨_, s.filtered_eq rendered, ?_⟩
  cases empty : t.isEmpty with
  | true =>
    obtain ⟨noPredicate, unordered⟩ := (Filter.text_isEmpty_iff rendered).mp empty
    exact .nothing noPredicate unordered (String.isEmpty_iff.mp empty)
  | false =>
    have present : ¬ ((∀ c ∈ cs, ¬ c.Live) ∧ ∀ c ∈ cs, ¬ c.Orders) := by
      rw [← Filter.text_isEmpty_iff rendered, empty]
      exact Bool.false_ne_true
    have orders := Filter.startsWith_orderBy_iff_orders rendered empty named
    rw [if_neg Bool.false_ne_true]
    by_cases noPredicate : ∀ c ∈ cs, ¬ c.Live
    · rw [if_pos (orders.mpr noPredicate)]
      exact .ordering rendered noPredicate fun unordered => present ⟨noPredicate, unordered⟩
    · rw [if_neg fun starts => noPredicate (orders.mp starts)]
      exact .condition (by simpa using noPredicate)

/-- A range of a field that is named like the first word of an ordering, and an ordering by it. -/
def orderRange : List Criterion :=
  [.bare .descending "order", .between "order" (.text "a") (.text "f")]

theorem filtered_keyword_orderRange :
    Filter.text orderRange = .ok "order between ? and ? order by order desc " ∧
    (∀ c ∈ orderRange, c.field.startsWith "order by" = false) ∧
    ∃ made, filtered { table := "parts" } orderRange = .ok made ∧
      made.written = "where order between ? and ? order by order desc " := by
  have rendered : Filter.text orderRange = .ok "order between ? and ? order by order desc " := rfl
  have named : ∀ c ∈ orderRange, c.field.startsWith "order by" = false := by
    intro c member
    simp only [orderRange, List.mem_cons, List.not_mem_nil, or_false] at member
    obtain rfl | rfl := member
    · exact String.startsWith_string_eq_false_iff.mpr (by decide)
    · exact String.startsWith_string_eq_false_iff.mpr (by decide)
  obtain ⟨made, gained, gains⟩ := filtered_keyword { table := "parts" } rendered named
  have live : ∃ c ∈ orderRange, c.Live := by decide
  exact ⟨rendered, named, made, gained, gains.conditioned.mpr live⟩

end Select

end SqlRecords
