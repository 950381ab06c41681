import SqlRecords.Proofs.Filter.Text

/-!
# Placeholders of a filter

Text and values of a filter are made apart. `build_aligned` shows that they agree at every prefix
of the list, so that each value stands at a question mark of the criterion it comes from.
-/

namespace SqlRecords

/-! ### Question marks -/

/-- The number of question marks in a text. -/
def questions (s : String) : Nat := s.toList.count '?'

@[simp] theorem questions_append (s t : String) :
    questions (s ++ t) = questions s + questions t := by
  simp [questions, List.count_append]

theorem questions_join_eq_zero {texts : List String} (noneEach : ∀ t ∈ texts, questions t = 0) :
    questions (String.join texts) = 0 := by
  induction texts with
  | nil => rfl
  | cons s rest ih =>
    rw [String.join_cons, questions_append, noneEach s List.mem_cons_self,
      ih fun t member => noneEach t (List.mem_cons_of_mem _ member)]

theorem questions_eq_zero {s : String} (clean : '?' ∉ s.toList) : questions s = 0 :=
  List.count_eq_zero.mpr clean

theorem questions_intercalate {separator : String} (clean : '?' ∉ separator.toList)
    (texts : List String) :
    questions (separator.intercalate texts) = questions (String.join texts) := by
  induction texts with
  | nil => rfl
  | cons s rest ih =>
    cases rest with
    | nil => simp
    | cons t rest =>
      rw [String.intercalate_cons_cons, questions_append, questions_append, ih,
        questions_eq_zero clean, Nat.add_zero, ← questions_append, ← String.join_cons]

theorem questions_each {separator : String} (clean : '?' ∉ separator.toList) {α : Type}
    (entries : List α) :
    questions (separator.intercalate (entries.map fun _ => "?")) = entries.length := by
  rw [questions_intercalate clean]
  induction entries with
  | nil => rfl
  | cons entry rest ih =>
    rw [List.map_cons, String.join_cons, questions_append, ih, List.length_cons, Nat.add_comm]
    rfl

/-- Every position of a concatenation lies in one of its pieces. -/
theorem flatMap_locate {α β : Type} (f : α → List β) (xs : List α) (i : Nat)
    (inside : i < (xs.flatMap f).length) :
    ∃ before x after j, xs = before ++ x :: after ∧ (before.flatMap f).length + j = i ∧
      j < (f x).length ∧ (xs.flatMap f)[i]? = (f x)[j]? := by
  induction xs generalizing i with
  | nil => simp at inside
  | cons x xs ih =>
    rw [List.flatMap_cons] at inside ⊢
    by_cases here : i < (f x).length
    · exact ⟨[], x, xs, i, rfl, by simp, here, List.getElem?_append_left here⟩
    · rw [List.length_append] at inside
      obtain ⟨before, y, after, j, rfl, reached, within, same⟩ := ih (i - (f x).length) (by omega)
      refine ⟨x :: before, y, after, j, rfl, ?_, within, ?_⟩
      · rw [List.flatMap_cons, List.length_append]
        omega
      · rw [List.getElem?_append_right (by omega), same]

namespace Criterion

/-! ### Criteria one by one -/

/-- The values of a live criterion, one for each question mark of its phrase. -/
def operands (c : Criterion) : List Value :=
  match c.operator with
  | .between | .among | .notAmong => c.values
  | .isNull | .isNotNull | .ascending | .descending => []
  | .eq | .notEq | .lt | .gt | .le | .ge | .like | .notLike => c.value.toList

theorem params_of_live {c : Criterion} (live : c.Live) : c.params = c.operands := by
  rw [params, if_pos ((c.isPresent_iff_live).mpr live)]
  cases h : c.operator <;> simp [operands, Operator.arity, h]

theorem params_of_not_live {c : Criterion} (dead : ¬ c.Live) : c.params = [] := by
  rw [params, if_neg fun present => dead ((c.isPresent_iff_live).mp present)]

theorem questions_marks (vs : List Value) : questions (marks vs) = vs.length :=
  questions_each (by decide) vs

/-- A live criterion has a question mark for each of its values. -/
theorem questions_phrase {c : Criterion} (live : c.Live) (ends : ¬ c.LacksEnds)
    (clean : '?' ∉ c.field.toList) : questions c.phrase = c.params.length := by
  rw [params_of_live live]
  have field := questions_eq_zero clean
  have supplied := live.2
  cases h : c.operator with
  | between =>
    simp only [phrase, operands, h, questions_append, field, two_ends live ends h]
    rfl
  | among | notAmong =>
    simp only [phrase, operands, h, questions_append, field, questions_marks, Nat.zero_add]
    exact Nat.zero_add _
  | isNull | isNotNull =>
    simp only [phrase, operands, h, questions_append, field]
    rfl
  | ascending | descending => simp [h] at supplied
  | _ =>
    rw [h] at supplied
    obtain ⟨v, held⟩ := Option.isSome_iff_exists.mp supplied
    simp only [phrase, operands, h, questions_append, field, held]
    rfl

theorem questions_phrase_of_orders {c : Criterion} (orders : c.Orders)
    (clean : '?' ∉ c.field.toList) : questions c.phrase = 0 := by
  have field := questions_eq_zero clean
  obtain ⟨-, up | down⟩ := orders
  · simp only [phrase, up, questions_append, field]
    rfl
  · simp only [phrase, down, questions_append, field]
    rfl

theorem questions_joint (joint : Joint) : questions joint.text = 0 := by
  cases joint <;> rfl

end Criterion

namespace Filter

/-! ### Prefixes of a filter -/

theorem spelledFrom_append (first : Bool) (xs ys : List Criterion) :
    spelledFrom first (xs ++ ys) =
      spelledFrom first xs ++ spelledFrom (first && xs.isEmpty) ys := by
  induction xs generalizing first with
  | nil => cases first <;> simp [spelledFrom]
  | cons c rest ih =>
    cases first <;> simp [spelledFrom, ih, String.append_assoc]

theorem predicatesText_ok {cs : List Criterion} (first : Bool) (ends : ∀ c ∈ cs, ¬ c.LacksEnds) :
    predicatesText first cs = .ok (spelledFrom first (cs.filter (·.Live))) := by
  have noneFound : cs.find? (·.LacksEnds) = none :=
    List.find?_eq_none.mpr fun c member => by simpa using ends c member
  rw [predicatesText_eq, noneFound]

theorem params_append (xs ys : List Criterion) : params (xs ++ ys) = params xs ++ params ys :=
  List.flatMap_append

/-- A list of live criteria spells as many question marks as it has values. -/
theorem questions_spelledFrom (first : Bool) {live : List Criterion}
    (ready : ∀ c ∈ live, c.Live ∧ ¬ c.LacksEnds ∧ '?' ∉ c.field.toList) :
    questions (spelledFrom first live) = (params live).length := by
  induction live generalizing first with
  | nil => cases first <;> rfl
  | cons c rest ih =>
    obtain ⟨alive, ends, clean⟩ := ready c List.mem_cons_self
    have tail := ih false fun d member => ready d (List.mem_cons_of_mem _ member)
    have here := Criterion.questions_phrase alive ends clean
    have values : params (c :: rest) = c.params ++ params rest := List.flatMap_cons
    rw [values, List.length_append]
    cases first with
    | true => rw [spelledFrom, questions_append, here, tail]
    | false =>
      rw [spelledFrom, joined, questions_append, questions_append, Criterion.questions_joint,
        here, tail, Nat.zero_add]

theorem params_filter_live (cs : List Criterion) : params (cs.filter (·.Live)) = params cs := by
  induction cs with
  | nil => rfl
  | cons c rest ih =>
    have values : params (c :: rest) = c.params ++ params rest := List.flatMap_cons
    by_cases live : c.Live
    · rw [List.filter_cons_of_pos (by simpa using live), values, ← ih]
      exact List.flatMap_cons
    · rw [List.filter_cons_of_neg (by simpa using live), ih, values,
        Criterion.params_of_not_live live, List.nil_append]

/-- The predicates of a list spell as many question marks as the list has values. -/
theorem questions_predicates (first : Bool) {cs : List Criterion}
    (ends : ∀ c ∈ cs, ¬ c.LacksEnds) (clean : ∀ c ∈ cs, '?' ∉ c.field.toList) :
    questions (spelledFrom first (cs.filter (·.Live))) = (params cs).length := by
  rw [← params_filter_live cs]
  refine questions_spelledFrom first fun c member => ?_
  obtain ⟨member, live⟩ := List.mem_filter.mp member
  exact ⟨by simpa using live, ends c member, clean c member⟩

theorem questions_spelledOrderings {cs : List Criterion} (clean : ∀ c ∈ cs, '?' ∉ c.field.toList) :
    questions (spelledOrderings cs) = 0 := by
  have noneEach : ∀ c ∈ cs.filter (·.Orders), questions c.phrase = 0 := fun c member =>
    Criterion.questions_phrase_of_orders (by simpa using (List.mem_filter.mp member).2)
      (clean c (List.mem_filter.mp member).1)
  rw [spelledOrderings]
  cases h : cs.filter (·.Orders) with
  | nil => rfl
  | cons c rest =>
    rw [h] at noneEach
    have later : ∀ t ∈ rest.map (fun c => ", " ++ c.phrase), questions t = 0 := by
      intro t member
      obtain ⟨o, present, rfl⟩ := List.mem_map.mp member
      rw [questions_append, noneEach o (List.mem_cons_of_mem _ present)]
      rfl
    rw [questions_append, questions_append, noneEach c List.mem_cons_self,
      questions_join_eq_zero later]
    rfl

theorem build_text {cs : List Criterion} {s : Statement} (built : build cs = .ok s) :
    text cs = .ok s.text ∧ s.params = params cs := by
  rw [build] at built
  cases rendered : text cs with
  | error e =>
    rw [rendered] at built
    cases built
  | ok t =>
    rw [rendered] at built
    obtain rfl := Except.ok.inj built
    exact ⟨rfl, rfl⟩

theorem build_ok {cs : List Criterion} {s : Statement} (built : build cs = .ok s) :
    (∀ c ∈ cs, ¬ c.LacksEnds) ∧ s.params = params cs ∧
      s.text = spelledFrom true (cs.filter (·.Live)) ++ spelledOrderings cs := by
  obtain ⟨rendered, values⟩ := build_text built
  obtain ⟨ends, text⟩ := (text_ok_iff cs s.text).mp rendered
  exact ⟨ends, values, by rw [text, spelledFrom_true]⟩

theorem spelledFrom_split {c : Criterion} (live : c.Live) (before after : List Criterion) :
    spelledFrom true ((before ++ c :: after).filter (·.Live)) =
      spelledFrom true (before.filter (·.Live)) ++
        joined (if before.any (·.Live) then c.joint else .none, c) ++
          spelledFrom false (after.filter (·.Live)) := by
  rw [List.filter_append, List.filter_cons_of_pos (by simpa using live), spelledFrom_append,
    String.append_assoc]
  congr 1
  rw [Bool.true_and]
  by_cases someBefore : before.any (·.Live) = true
  · have kept : (before.filter (·.Live)).isEmpty = false := by
      obtain ⟨b, member, alive⟩ := List.any_eq_true.mp someBefore
      exact List.isEmpty_eq_false_iff_exists_mem.mpr ⟨b, List.mem_filter.mpr ⟨member, alive⟩⟩
    rw [kept, if_pos someBefore, spelledFrom]
  · have dropped : before.filter (·.Live) = [] := by
      refine List.filter_eq_nil_iff.mpr fun b member alive => someBefore ?_
      exact List.any_eq_true.mpr ⟨b, member, alive⟩
    rw [dropped, if_neg someBefore]
    simp [spelledFrom, joined, Joint.text]

theorem build_prefix {before after : List Criterion} {s : Statement}
    (built : build (before ++ after) = .ok s)
    (clean : ∀ c ∈ before ++ after, '?' ∉ c.field.toList) :
    ∃ t rest, predicatesText true before = .ok t ∧ s.text = t ++ rest ∧
      questions t = (params before).length ∧ s.params = params before ++ params after := by
  obtain ⟨ends, values, text⟩ := build_ok built
  have endsBefore : ∀ c ∈ before, ¬ c.LacksEnds :=
    fun c member => ends c (List.mem_append_left _ member)
  have cut := text
  rw [List.filter_append, spelledFrom_append, String.append_assoc] at cut
  exact ⟨_, _, predicatesText_ok true endsBefore, cut,
    questions_predicates true endsBefore fun c member => clean c (List.mem_append_left _ member),
    by rw [values, params_append]⟩

theorem build_position {cs : List Criterion} {s : Statement} {i : Nat} (built : build cs = .ok s)
    (clean : ∀ c ∈ cs, '?' ∉ c.field.toList) (inside : i < s.params.length) :
    ∃ before c after t f rest j, cs = before ++ c :: after ∧ predicatesText true before = .ok t ∧
      c.fragment (if before.any (·.Live) then c.joint else .none) = .ok f ∧
        s.text = t ++ f ++ rest ∧ questions t + j = i ∧ j < questions f ∧
          s.params[i]? = c.params[j]? := by
  obtain ⟨ends, values, text⟩ := build_ok built
  rw [values] at inside
  obtain ⟨before, c, after, j, rfl, reached, within, same⟩ :=
    flatMap_locate Criterion.params cs i inside
  -- A criterion that holds a value is live, so it has a fragment of its own.
  have live : c.Live := Decidable.byContradiction fun dead => by
    rw [Criterion.params_of_not_live dead] at within
    exact Nat.not_lt_zero _ within
  have member : c ∈ before ++ c :: after := List.mem_append_right _ List.mem_cons_self
  have earlier : ∀ d ∈ before, d ∈ before ++ c :: after := fun d => List.mem_append_left _
  have endsBefore : ∀ d ∈ before, ¬ d.LacksEnds := fun d present => ends d (earlier d present)
  refine ⟨before, c, after, _, _, spelledFrom false (after.filter (·.Live)) ++
    spelledOrderings (before ++ c :: after), j, rfl, predicatesText_ok true endsBefore,
    Criterion.fragment_of_live _ live (ends c member), ?_, ?_, ?_, ?_⟩
  · rw [text, spelledFrom_split live, String.append_assoc, joined]
  · rw [questions_predicates true endsBefore fun d present => clean d (earlier d present)]
    exact reached
  · rw [questions_append, Criterion.questions_joint, Nat.zero_add,
      Criterion.questions_phrase live (ends c member) (clean c member)]
    exact within
  · rw [values]
    exact same

/-- Text and values of a statement agree with the list it is made from. -/
structure Aligned (cs : List Criterion) (s : Statement) : Prop where
  /-- There are as many question marks as values. -/
  total : questions s.text = s.params.length
  /-- The predicates of a prefix have as many question marks as the prefix has values. -/
  upTo : ∀ before after, cs = before ++ after →
    ∃ t rest, predicatesText true before = .ok t ∧ s.text = t ++ rest ∧
      questions t = (params before).length ∧ s.params = params before ++ params after
  /-- The question mark of a value stands in the fragment of the value's own criterion. -/
  places : ∀ i < s.params.length,
    ∃ before c after t f rest j, cs = before ++ c :: after ∧ predicatesText true before = .ok t ∧
      c.fragment (if before.any (·.Live) then c.joint else .none) = .ok f ∧
        s.text = t ++ f ++ rest ∧ questions t + j = i ∧ j < questions f ∧
          s.params[i]? = c.params[j]?

/-- What a filter builds agrees with the list at every prefix and at every value, whatever takes
no part in it. -/
theorem build_aligned (cs : List Criterion) (s : Statement) (built : build cs = .ok s)
    (clean : ∀ c ∈ cs, '?' ∉ c.field.toList) : Aligned cs s where
  total := by
    obtain ⟨ends, values, text⟩ := build_ok built
    rw [text, questions_append, questions_predicates true ends clean,
      questions_spelledOrderings clean, values, Nat.add_zero]
  upTo := by
    rintro before after rfl
    exact build_prefix built clean
  places := fun _ inside => build_position built clean inside

/-- An ordering and a missing value in front, an operator that takes one value beside a list that
it does not read, and a disabled list. -/
def mixed : List Criterion :=
  [.bare .descending "at", .compare .eq "name" .null,
    { field := "id", operator := .gt, value := some (.bool true), values := [.null, .null],
      joint := .or },
    .enabledIf (.among "kind" [.null]) false, .between "at" (.char 'a') (.char 'b'),
    .joined (.notAmong "code" [.text "x", .text "y", .text "?"]) .or]

/-- What `mixed` builds. -/
def mixedStatement : Statement where
  text := "id > ? and at between ? and ? or code not in(?,?,?) order by at desc "
  params := [.bool true, .char 'a', .char 'b', .text "x", .text "y", .text "?"]

theorem build_aligned_mixed :
    build mixed = .ok mixedStatement ∧ (∀ c ∈ mixed, '?' ∉ c.field.toList) ∧
      Aligned mixed mixedStatement :=
  ⟨rfl, by decide, build_aligned mixed mixedStatement rfl (by decide)⟩

end Filter

end SqlRecords
