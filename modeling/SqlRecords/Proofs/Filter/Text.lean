import SqlRecords.Criterion.Filter

/-!
# The text of a filter

What a filter says, read off its criteria: the live predicates in order, the first without its
connective, and behind them the orderings. `text_eq_spelled` shows that rendering gives this text
unless a range lacks its two ends.
-/

namespace SqlRecords

namespace Criterion

/-- The criterion takes part as a predicate: it is enabled and no ordering, and it has the value
or the values that its operator takes. -/
def Live (c : Criterion) : Prop :=
  c.enabled = true ∧
    match c.operator with
    | .between | .among | .notAmong => c.values ≠ []
    | .isNull | .isNotNull => True
    | .ascending | .descending => False
    | .eq | .notEq | .lt | .gt | .le | .ge | .like | .notLike => c.value.isSome = true

/-- The criterion takes part as an ordering. -/
def Orders (c : Criterion) : Prop :=
  c.enabled = true ∧ (c.operator = .ascending ∨ c.operator = .descending)

/-- An enabled range with some values, but not two. -/
def LacksEnds (c : Criterion) : Prop :=
  c.enabled = true ∧ c.operator = .between ∧ c.values.length ≠ 0 ∧ c.values.length ≠ 2

instance : DecidablePred LacksEnds := fun c =>
  inferInstanceAs (Decidable (c.enabled = true ∧ c.operator = .between ∧ c.values.length ≠ 0 ∧
    c.values.length ≠ 2))

instance : DecidablePred Orders := fun c =>
  inferInstanceAs (Decidable (c.enabled = true ∧
    (c.operator = .ascending ∨ c.operator = .descending)))

/-- One question mark for each value, with commas between. -/
def marks (vs : List Value) : String := ",".intercalate (vs.map fun _ => "?")

/-- A predicate without its connective, or an ordering without `order by`. -/
def phrase (c : Criterion) : String :=
  match c.operator with
  | .eq => c.field ++ " = ? "
  | .notEq => c.field ++ " != ? "
  | .lt => c.field ++ " < ? "
  | .gt => c.field ++ " > ? "
  | .le => c.field ++ " <= ? "
  | .ge => c.field ++ " >= ? "
  | .like => c.field ++ " like ? "
  | .notLike => c.field ++ " not like ? "
  | .between => c.field ++ " between ? and ? "
  | .among => c.field ++ " in(" ++ marks c.values ++ ") "
  | .notAmong => c.field ++ " not in(" ++ marks c.values ++ ") "
  | .isNull => c.field ++ " is null "
  | .isNotNull => c.field ++ " is not null "
  | .ascending => c.field ++ " asc "
  | .descending => c.field ++ " desc "

/-! ### Criteria one by one -/

theorem isPresent_iff_live (c : Criterion) : c.isPresent = true ↔ c.Live := by
  cases h : c.operator <;> simp [isPresent, Live, Operator.arity, h]

instance : DecidablePred Live := fun c => decidable_of_iff _ (isPresent_iff_live c)

theorem isOrdering_iff_orders (c : Criterion) : c.isOrdering = true ↔ c.Orders := by
  cases h : c.operator <;> simp [isOrdering, Orders, Operator.arity, h]

theorem LacksEnds.live {c : Criterion} (lacks : c.LacksEnds) : c.Live := by
  obtain ⟨enabled, range, someValue, -⟩ := lacks
  refine ⟨enabled, ?_⟩
  rw [range]
  exact fun noneLeft => someValue (by simp [noneLeft])

theorem two_ends {c : Criterion} (live : c.Live) (ends : ¬ c.LacksEnds)
    (range : c.operator = .between) : c.values.length = 2 := by
  obtain ⟨enabled, supplied⟩ := live
  rw [range] at supplied
  have someValue : c.values.length ≠ 0 := fun noneLeft =>
    supplied (List.eq_nil_of_length_eq_zero noneLeft)
  exact Decidable.byContradiction fun other => ends ⟨enabled, range, someValue, other⟩

theorem repeated_marks (vs : List Value) : Text.repeated "?" "," vs.length = marks vs := by
  rw [Text.repeated, marks, List.map_const']

theorem fragment_of_live {c : Criterion} (joint : Joint) (live : c.Live) (ends : ¬ c.LacksEnds) :
    c.fragment joint = .ok (joint.text ++ c.phrase) := by
  have supplied := live.2
  cases h : c.operator with
  | between =>
    simp [fragment, phrase, Operator.arity, Operator.keyword, h, two_ends live ends h,
      String.append_assoc]
  | among | notAmong =>
    simp [fragment, phrase, Operator.arity, Operator.keyword, h, repeated_marks,
      String.append_assoc]
  | ascending | descending => simp [h] at supplied
  | _ => simp [fragment, phrase, Operator.arity, Operator.keyword, h, String.append_assoc]

theorem fragment_of_lacksEnds {c : Criterion} (joint : Joint) (lacks : c.LacksEnds) :
    c.fragment joint = .error (.invalidArgument (.rangeEnds c.field c.values.length)) := by
  obtain ⟨-, range, -, notTwo⟩ := lacks
  simp [fragment, Operator.arity, range, notTwo]

theorem orderingText_of_orders {c : Criterion} (orders : c.Orders) :
    Filter.orderingText c = c.phrase := by
  obtain ⟨-, up | down⟩ := orders
  · simp [Filter.orderingText, phrase, Operator.keyword, up, String.append_assoc]
  · simp [Filter.orderingText, phrase, Operator.keyword, down, String.append_assoc]

end Criterion

namespace Filter

/-- The live predicates in order, each with the connective it stands behind: the first has none. -/
def predicates (cs : List Criterion) : List (Joint × Criterion) :=
  match cs.filter (·.Live) with
  | [] => []
  | c :: rest => (.none, c) :: rest.map fun c => (c.joint, c)

theorem map_snd_predicates (cs : List Criterion) :
    (predicates cs).map (·.2) = cs.filter (·.Live) := by
  rw [predicates]
  cases cs.filter (·.Live) with
  | nil => rfl
  | cons c rest => simp [Function.comp_def]

/-- A predicate behind its connective. -/
def joined (p : Joint × Criterion) : String := p.1.text ++ p.2.phrase

/-- The orderings in order, behind `order by` and with commas between. -/
def spelledOrderings (cs : List Criterion) : String :=
  match cs.filter (·.Orders) with
  | [] => ""
  | c :: rest => "order by " ++ c.phrase ++ String.join (rest.map fun c => ", " ++ c.phrase)

/-! ### Rendering -/

/-- The text of live predicates when `first` says whether one stands before them. -/
def spelledFrom (first : Bool) (live : List Criterion) : String :=
  match first, live with
  | true, c :: rest => c.phrase ++ spelledFrom false rest
  | false, c :: rest => joined (c.joint, c) ++ spelledFrom false rest
  | _, [] => ""

theorem spelledFrom_false (live : List Criterion) :
    spelledFrom false live = String.join (live.map fun c => joined (c.joint, c)) := by
  induction live with
  | nil => rfl
  | cons c rest ih => rw [spelledFrom, ih, List.map_cons, String.join_cons]

theorem spelledFrom_true (cs : List Criterion) :
    spelledFrom true (cs.filter (·.Live)) = String.join ((predicates cs).map joined) := by
  rw [predicates]
  cases cs.filter (·.Live) with
  | nil => rfl
  | cons c rest =>
    rw [spelledFrom, spelledFrom_false, List.map_cons, String.join_cons, List.map_map]
    simp [joined, Joint.text, Function.comp_def]

theorem predicatesText_eq (first : Bool) (cs : List Criterion) :
    predicatesText first cs =
      match cs.find? (·.LacksEnds) with
      | some c => .error (.invalidArgument (.rangeEnds c.field c.values.length))
      | none => .ok (spelledFrom first (cs.filter (·.Live))) := by
  induction cs generalizing first with
  | nil => cases first <;> rfl
  | cons c rest ih =>
    by_cases live : c.Live
    · rw [predicatesText, if_pos ((c.isPresent_iff_live).mpr live)]
      -- A range that lacks its ends is live, so the first of them ends the rendering.
      by_cases lacks : c.LacksEnds
      · rw [Criterion.fragment_of_lacksEnds _ lacks, List.find?_cons_of_pos (by simpa using lacks)]
        rfl
      · rw [Criterion.fragment_of_live _ live lacks, List.find?_cons_of_neg (by simpa using lacks),
          List.filter_cons_of_pos (by simpa using live)]
        change (predicatesText false rest >>= fun more => _) = _
        rw [ih]
        cases rest.find? (·.LacksEnds) with
        | some bad => rfl
        | none => cases first <;> rfl
    · have ends : ¬ c.LacksEnds := fun lacks => live lacks.live
      rw [predicatesText, if_neg (fun present => live ((c.isPresent_iff_live).mp present)), ih,
        List.find?_cons_of_neg (by simpa using ends), List.filter_cons_of_neg (by simpa using live)]

theorem intercalate_cons_join (sep s : String) (rest : List String) :
    sep.intercalate (s :: rest) = s ++ String.join (rest.map (sep ++ ·)) := by
  induction rest generalizing s with
  | nil => simp
  | cons t rest ih => rw [String.intercalate_cons_cons, ih, List.map_cons, String.join_cons,
      String.append_assoc, String.append_assoc]

theorem orderingsText_eq (cs : List Criterion) : orderingsText cs = spelledOrderings cs := by
  have same : cs.filter Criterion.isOrdering = cs.filter (·.Orders) :=
    List.filter_congr fun c _ => by simp [← Criterion.isOrdering_iff_orders]
  have spelled : ∀ c ∈ cs.filter (·.Orders), orderingText c = c.phrase := fun c member =>
    Criterion.orderingText_of_orders (by simpa using (List.mem_filter.mp member).2)
  rw [orderingsText, spelledOrderings, same]
  cases h : cs.filter (·.Orders) with
  | nil => rfl
  | cons c rest =>
    rw [h] at spelled
    simp only [List.map_cons, intercalate_cons_join, List.map_map]
    rw [spelled c List.mem_cons_self, String.append_assoc]
    congr 3
    exact List.map_congr_left fun o member => by
      rw [Function.comp_apply, spelled o (List.mem_cons_of_mem _ member)]

theorem text_eq (cs : List Criterion) :
    text cs =
      match cs.find? (·.LacksEnds) with
      | some c => .error (.invalidArgument (.rangeEnds c.field c.values.length))
      | none => .ok (String.join ((predicates cs).map joined) ++ spelledOrderings cs) := by
  rw [text, predicatesText_eq, spelledFrom_true, orderingsText_eq]
  cases cs.find? (·.LacksEnds) <;> rfl

theorem text_error_iff (cs : List Criterion) (e : StatementError) :
    text cs = .error e ↔
      ∃ before c after, cs = before ++ c :: after ∧ (∀ b ∈ before, ¬ b.LacksEnds) ∧
        c.LacksEnds ∧ e = .invalidArgument (.rangeEnds c.field c.values.length) := by
  rw [text_eq]
  constructor
  · intro failed
    cases found : cs.find? (·.LacksEnds) with
    | none => simp [found] at failed
    | some c =>
      rw [found] at failed
      obtain ⟨lacks, before, after, same, earlier⟩ := List.find?_eq_some_iff_append.mp found
      exact ⟨before, c, after, same, fun b member => by simpa using earlier b member,
        by simpa using lacks, (Except.error.inj failed).symm⟩
  · rintro ⟨before, c, after, rfl, earlier, lacks, rfl⟩
    have found : (before ++ c :: after).find? (·.LacksEnds) = some c :=
      List.find?_eq_some_iff_append.mpr
        ⟨by simpa using lacks, before, after, rfl, fun b member => by simpa using earlier b member⟩
    rw [found]

theorem text_ok_iff (cs : List Criterion) (t : String) :
    text cs = .ok t ↔
      (∀ c ∈ cs, ¬ c.LacksEnds) ∧
        t = String.join ((predicates cs).map joined) ++ spelledOrderings cs := by
  rw [text_eq]
  constructor
  · intro rendered
    cases found : cs.find? (·.LacksEnds) with
    | some c => simp [found] at rendered
    | none =>
      rw [found] at rendered
      exact ⟨fun c member => by simpa using List.find?_eq_none.mp found c member,
        (Except.ok.inj rendered).symm⟩
  · rintro ⟨ends, rfl⟩
    have noneFound : cs.find? (·.LacksEnds) = none :=
      List.find?_eq_none.mpr fun c member => by simpa using ends c member
    rw [noneFound]

/-- Rendering fails exactly at a range that lacks its ends, and names the first one. Otherwise it
gives the live predicates, the first one without its connective, and then the orderings, wherever
they stand in the list. -/
theorem text_eq_spelled (cs : List Criterion) :
    (∀ e, text cs = .error e ↔
      ∃ before c after, cs = before ++ c :: after ∧ (∀ b ∈ before, ¬ b.LacksEnds) ∧
        c.LacksEnds ∧ e = .invalidArgument (.rangeEnds c.field c.values.length)) ∧
    ∀ t, text cs = .ok t ↔
      (∀ c ∈ cs, ¬ c.LacksEnds) ∧
        t = String.join ((predicates cs).map joined) ++ spelledOrderings cs :=
  ⟨text_error_iff cs, text_ok_iff cs⟩

example :
    text [.bare .ascending "a", .compare .eq "n" .null, .joined (.compare .eq "x" (.bool true)) .or,
        .bare .descending "b", .bare .isNotNull "y"] =
      .ok "x = ? and y is not null order by a asc , b desc " := rfl

end Filter

end SqlRecords
