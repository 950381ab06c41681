import SqlRecords.Proofs.Filter.Placeholders
import SqlRecords.Statement.Update

/-!
# Parts of a statement

The parts of a statement that bind values are an equality, an inserted row, or a predicate; between
them stand plain words. `Spells` derives a text and its values from such parts, and `Spells.binds`
shows that the question mark of each value then stands in the part that the value comes from.
-/

namespace SqlRecords

/-- A part of a statement that binds values. -/
inductive Part where
  /-- A column and what it is set or compared to. -/
  | equality (column : String) (v : Value)
  /-- The columns of a new row, and their values in the same order. -/
  | row (entries : List (String × Value))
  /-- A predicate behind its connective. -/
  | predicate (joint : Joint) (c : Criterion)

namespace Part

/-- The text of a part. -/
def text : Part → String
  | equality column _ => column ++ " = ?"
  | row entries =>
    "(" ++ ",".intercalate (entries.map (·.1)) ++ ") values (" ++
      ", ".intercalate (entries.map fun _ => "?") ++ ")"
  | predicate joint c => Filter.joined (joint, c)

/-- The values that a part binds. -/
def params : Part → List Value
  | equality _ v => [v]
  | row entries => entries.map (·.2)
  | predicate _ c => c.params

/-- The part has a question mark for each value that it binds. -/
def Aligned (p : Part) : Prop := questions p.text = p.params.length

theorem aligned_equality {column : String} (v : Value) (clean : '?' ∉ column.toList) :
    (equality column v).Aligned := by
  rw [Aligned, text, questions_append, questions_eq_zero clean]
  rfl

theorem aligned_row {entries : List (String × Value)}
    (clean : ∀ entry ∈ entries, '?' ∉ entry.1.toList) : (row entries).Aligned := by
  have columns : questions (",".intercalate (entries.map (·.1))) = 0 := by
    rw [questions_intercalate (by decide)]
    refine questions_join_eq_zero fun t member => ?_
    obtain ⟨entry, present, rfl⟩ := List.mem_map.mp member
    exact questions_eq_zero (clean entry present)
  rw [Aligned, text, params, List.length_map]
  simp only [questions_append, columns, questions_each (show '?' ∉ ", ".toList by decide)]
  exact Nat.zero_add _

theorem aligned_predicate {c : Criterion} (joint : Joint) (live : c.Live) (ends : ¬ c.LacksEnds)
    (clean : '?' ∉ c.field.toList) : (predicate joint c).Aligned := by
  rw [Aligned, text, params, Filter.joined, questions_append, Criterion.questions_joint,
    Criterion.questions_phrase live ends clean, Nat.zero_add]

end Part

/-- A text with values is made of parts, in this order, and of words between them. -/
inductive Spells : List Part → String → List Value → Prop where
  | done : Spells [] "" []
  | words {parts : List Part} {text : String} {params : List Value} {words : String}
      (clean : '?' ∉ words.toList) (rest : Spells parts text params) :
      Spells parts (words ++ text) params
  | part {parts : List Part} {text : String} {params : List Value} {p : Part}
      (aligned : p.Aligned) (rest : Spells parts text params) :
      Spells (p :: parts) (p.text ++ text) (p.params ++ params)

namespace Spells

variable {parts parts' : List Part} {text text' words : String} {params params' : List Value}

/-! ### Making statements -/

theorem append (left : Spells parts text params) (right : Spells parts' text' params') :
    Spells (parts ++ parts') (text ++ text') (params ++ params') := by
  induction left with
  | done =>
    rw [String.empty_append]
    exact right
  | words clean _ ih =>
    rw [String.append_assoc]
    exact ih.words clean
  | part aligned _ ih =>
    rw [String.append_assoc, List.append_assoc, List.cons_append]
    exact ih.part aligned

theorem ofWords (clean : '?' ∉ words.toList) : Spells [] words [] := by
  have spelled := done.words clean
  rw [String.append_empty] at spelled
  exact spelled

theorem thenWords (spelled : Spells parts text params) (clean : '?' ∉ words.toList) :
    Spells parts (text ++ words) params := by
  have extended := spelled.append (ofWords clean)
  rw [List.append_nil, List.append_nil] at extended
  exact extended

theorem ofPart {p : Part} (aligned : p.Aligned) : Spells [p] p.text p.params := by
  have spelled := done.part aligned
  rw [String.append_empty, List.append_nil] at spelled
  exact spelled

theorem join (aligned : ∀ p ∈ parts, p.Aligned) :
    Spells parts (String.join (parts.map Part.text)) (parts.flatMap Part.params) := by
  induction parts with
  | nil => exact done
  | cons p rest ih =>
    rw [List.map_cons, String.join_cons, List.flatMap_cons]
    exact (ih fun q member => aligned q (List.mem_cons_of_mem _ member)).part
      (aligned p List.mem_cons_self)

theorem intercalate {separator : String} (clean : '?' ∉ separator.toList)
    (aligned : ∀ p ∈ parts, p.Aligned) :
    Spells parts (separator.intercalate (parts.map Part.text)) (parts.flatMap Part.params) := by
  induction parts with
  | nil => exact done
  | cons p rest ih =>
    have here := aligned p List.mem_cons_self
    cases rest with
    | nil => simpa using ofPart here
    | cons q rest =>
      have tail := ih fun o member => aligned o (List.mem_cons_of_mem _ member)
      rw [List.map_cons, List.map_cons, String.intercalate_cons_cons, List.flatMap_cons,
        String.append_assoc]
      exact (tail.words clean).part here

/-! ### What statements bind -/

theorem params_eq (spelled : Spells parts text params) : params = parts.flatMap Part.params := by
  induction spelled with
  | done => rfl
  | words _ _ ih => exact ih
  | part _ _ ih => rw [List.flatMap_cons, ih]

theorem questions_eq (spelled : Spells parts text params) : questions text = params.length := by
  induction spelled with
  | done => rfl
  | words clean _ ih => rw [questions_append, questions_eq_zero clean, ih, Nat.zero_add]
  | part aligned _ ih => rw [questions_append, aligned, ih, List.length_append]

/-- The question mark of a value stands in the part that the value comes from. -/
theorem places (spelled : Spells parts text params) {i : Nat} (inside : i < params.length) :
    ∃ before p after t rest j, parts = before ++ p :: after ∧ text = t ++ p.text ++ rest ∧
      questions t + j = i ∧ j < questions p.text ∧ params[i]? = p.params[j]? := by
  induction spelled generalizing i with
  | done => exact absurd inside (Nat.not_lt_zero i)
  | @words parts text params words clean _ ih =>
    obtain ⟨before, p, after, t, rest, j, rfl, rfl, reached, within, same⟩ := ih inside
    refine ⟨before, p, after, words ++ t, rest, j, rfl, ?_, ?_, within, same⟩
    · simp only [String.append_assoc]
    · rw [questions_append, questions_eq_zero clean, Nat.zero_add]
      exact reached
  | @part parts text params p aligned _ ih =>
    by_cases here : i < p.params.length
    · exact ⟨[], p, parts, "", text, i, rfl, by rw [String.empty_append], Nat.zero_add i,
        aligned ▸ here, List.getElem?_append_left here⟩
    · rw [List.length_append] at inside
      obtain ⟨before, q, after, t, rest, j, rfl, rfl, reached, within, same⟩ :=
        ih (i := i - p.params.length) (by omega)
      refine ⟨p :: before, q, after, p.text ++ t, rest, j, rfl, ?_, ?_, within, ?_⟩
      · simp only [String.append_assoc]
      · rw [questions_append, aligned]
        omega
      · rw [List.getElem?_append_right (by omega), same]

end Spells

/-- The values of a statement are those of the parts in order, and each is bound by a question mark
of its own part. -/
structure Statement.Binds (s : Statement) (parts : List Part) : Prop where
  params : s.params = parts.flatMap Part.params
  /-- There are as many question marks as values. -/
  total : questions s.text = s.params.length
  /-- The question mark of a value stands in the part that the value comes from. -/
  places : ∀ i < s.params.length,
    ∃ before p after t rest j, parts = before ++ p :: after ∧ s.text = t ++ p.text ++ rest ∧
      questions t + j = i ∧ j < questions p.text ∧ s.params[i]? = p.params[j]?

theorem Spells.binds {parts : List Part} {s : Statement}
    (spelled : Spells parts s.text s.params) : s.Binds parts where
  params := spelled.params_eq
  total := spelled.questions_eq
  places := fun _ inside => spelled.places inside

end SqlRecords
