import SqlRecords.Access.Gateway
import SqlRecords.Proofs.Number.Decimal
import SqlRecords.Proofs.Outcome
import SqlRecords.Proofs.Statement.Part

/-!
# What built statements bind

Each statement that a gateway builds, taken apart: a select, count or delete statement binds the
predicates of its filter, an insert statement its row, and an update statement what it sets and
then what it compares.
-/

namespace SqlRecords

theorem clean_append {s t : String} (left : '?' ∉ s.toList) (right : '?' ∉ t.toList) :
    '?' ∉ (s ++ t).toList := by
  rw [String.toList_append, List.mem_append]
  exact not_or.mpr ⟨left, right⟩

/-! ### Filters -/

theorem blank_append (s t : String) : Text.blank (s ++ t) = (Text.blank s && Text.blank t) := by
  rw [Text.blank, String.toList_append, List.all_append]
  rfl

theorem Criterion.phrase_not_blank (c : Criterion) : Text.blank c.phrase = false := by
  have ending : ∀ {s t : String}, Text.blank t = false → Text.blank (s ++ t) = false := by
    intro s t visible
    rw [blank_append, visible, Bool.and_false]
  rw [phrase]
  cases c.operator <;> exact ending (by decide)

namespace Filter

/-- The parts of a filter: its live predicates. -/
def parts (cs : List Criterion) : List Part := (predicates cs).map fun p => .predicate p.1 p.2

theorem spells {cs : List Criterion} {t : String} (rendered : text cs = .ok t)
    (clean : ∀ c ∈ cs, '?' ∉ c.field.toList) : Spells (parts cs) t (params cs) := by
  obtain ⟨ends, rfl⟩ := (text_ok_iff cs t).mp rendered
  have aligned : ∀ p ∈ parts cs, p.Aligned := by
    intro p member
    obtain ⟨⟨joint, c⟩, present, rfl⟩ := List.mem_map.mp member
    have kept : c ∈ cs.filter (·.Live) := by
      rw [← map_snd_predicates]
      exact List.mem_map_of_mem present
    obtain ⟨origin, live⟩ := List.mem_filter.mp kept
    exact Part.aligned_predicate joint (by simpa using live) (ends c origin) (clean c origin)
  have values : (parts cs).flatMap Part.params = params cs := by
    rw [← params_filter_live, ← map_snd_predicates, params, parts, List.flatMap_map,
      List.flatMap_map]
    rfl
  have joinedText : (parts cs).map Part.text = (predicates cs).map joined := by
    rw [parts, List.map_map]
    rfl
  have spelled := Spells.join aligned
  rw [values, joinedText] at spelled
  exact spelled.thenWords (List.count_eq_zero.mp (questions_spelledOrderings clean))

theorem parts_of_blank {cs : List Criterion} {t : String} (rendered : text cs = .ok t)
    (blank : Text.blank t = true) : parts cs = [] := by
  obtain ⟨-, rfl⟩ := (text_ok_iff cs t).mp rendered
  cases h : predicates cs with
  | nil => rw [parts, h, List.map_nil]
  | cons p rest =>
    rw [h, List.map_cons, String.join_cons, joined] at blank
    simp only [blank_append, p.2.phrase_not_blank, Bool.and_false, Bool.false_and] at blank
    cases blank

/-- A condition behind `where`; a blank one is left out. -/
theorem spells_where {cs : List Criterion} {t : String} (rendered : text cs = .ok t)
    (clean : ∀ c ∈ cs, '?' ∉ c.field.toList) :
    Spells (parts cs) (if Text.blank t then "" else "where " ++ t) (params cs) := by
  have spelled := spells rendered clean
  by_cases blank : Text.blank t = true
  · have noParts := parts_of_blank rendered blank
    have noParams := spelled.params_eq
    rw [noParts] at noParams ⊢
    rw [if_pos blank, noParams]
    exact .done
  · rw [if_neg blank]
    exact spelled.words (by decide)

end Filter

/-! ### Equalities -/

/-- An equality for each column and its value. -/
def Part.equalities (entries : List (String × Value)) : List Part :=
  entries.map fun entry => .equality entry.1 entry.2

theorem Part.equalities_params (entries : List (String × Value)) :
    (equalities entries).flatMap params = entries.map (·.2) := by
  induction entries with
  | nil => rfl
  | cons entry rest ih =>
    rw [equalities, List.map_cons, List.flatMap_cons, List.map_cons]
    exact congrArg (entry.2 :: ·) ih

theorem equalities_spells {separator : String} {entries : List (String × Value)}
    (cleanSeparator : '?' ∉ separator.toList) (clean : ∀ entry ∈ entries, '?' ∉ entry.1.toList) :
    Spells (Part.equalities entries)
      (separator.intercalate (entries.map fun entry => entry.1 ++ " = ?"))
      (entries.map (·.2)) := by
  have aligned : ∀ p ∈ Part.equalities entries, p.Aligned := by
    intro p member
    obtain ⟨entry, present, rfl⟩ := List.mem_map.mp member
    exact Part.aligned_equality entry.2 (clean entry present)
  have spelled := Spells.intercalate cleanSeparator aligned
  rw [Part.equalities_params, Part.equalities, List.map_map] at spelled
  exact spelled

theorem clean_filter {values kept : List (String × Value)} {p : String × Value → Bool}
    (isKept : values.filter p = kept) (clean : ∀ entry ∈ values, '?' ∉ entry.1.toList) :
    ∀ entry ∈ kept, '?' ∉ entry.1.toList := by
  intro entry member
  rw [← isKept] at member
  exact clean entry (List.mem_filter.mp member).1

theorem intercalate_suffix (separator suffix : String) (columns : List String)
    (someColumn : columns ≠ []) :
    (suffix ++ separator).intercalate columns ++ suffix =
      separator.intercalate (columns.map (· ++ suffix)) := by
  induction columns with
  | nil => exact absurd rfl someColumn
  | cons column rest ih =>
    cases rest with
    | nil => simp
    | cons next rest =>
      have tail := ih (List.cons_ne_nil next rest)
      rw [List.map_cons] at tail
      rw [List.map_cons, List.map_cons, String.intercalate_cons_cons, String.intercalate_cons_cons,
        ← tail]
      simp only [String.append_assoc]

/-! ### Select statements -/

/-- Behind any head stand the text of the filter and words around it. -/
theorem Select.filtered_finish {table : String} {cs : List Criterion} {select : Select}
    (made : Select.filtered { table := table } cs = .ok select) :
    (select.table = table ∧ select.columns = "*" ∧ select.counted = "*") ∧
      ∃ t lead tail, Filter.text cs = .ok t ∧ '?' ∉ lead.toList ∧ '?' ∉ tail.toList ∧
        ∀ head, select.finish head = head ++ (lead ++ t ++ tail) := by
  obtain ⟨t, rendered, made⟩ := bind_ok made
  by_cases nothing : t.isEmpty = true
  · rw [if_pos nothing] at made
    obtain rfl := Except.ok.inj made
    obtain rfl := String.isEmpty_iff.mp nothing
    exact ⟨⟨rfl, rfl, rfl⟩, "", "", "", rendered, by decide, by decide, fun head => by
      simp [finish]⟩
  · rw [if_neg nothing] at made
    by_cases orders : t.startsWith "order by" = true
    · rw [if_pos orders] at made
      obtain rfl := Except.ok.inj made
      exact ⟨⟨rfl, rfl, rfl⟩, t, "", " ", rendered, by decide, by decide, fun head => by
        simp [finish, push, Clause.text, String.append_assoc]⟩
    · rw [if_neg orders] at made
      obtain rfl := Except.ok.inj made
      exact ⟨⟨rfl, rfl, rfl⟩, t, "where ", " ", rendered, by decide, by decide, fun head => by
        simp [finish, push, Clause.text, String.append_assoc]⟩

namespace Gateway

variable {table : String} {cs : List Criterion} {s : Statement}

theorem finish_spells {select : Select} {head : String}
    (made : Select.filtered { table := table } cs = .ok select) (cleanHead : '?' ∉ head.toList)
    (clean : ∀ c ∈ cs, '?' ∉ c.field.toList) :
    Spells (Filter.parts cs) (select.finish head) (Filter.params cs) := by
  obtain ⟨-, t, lead, tail, rendered, cleanLead, cleanTail, finished⟩ := Select.filtered_finish made
  rw [finished head]
  exact (((Filter.spells rendered clean).words cleanLead).thenWords cleanTail).words cleanHead

theorem selection_spells (made : selection table cs = .ok s) (cleanTable : '?' ∉ table.toList)
    (clean : ∀ c ∈ cs, '?' ∉ c.field.toList) : Spells (Filter.parts cs) s.text s.params := by
  obtain ⟨select, filtered, made⟩ := bind_ok made
  obtain rfl := Except.ok.inj made
  obtain ⟨⟨named, all, -⟩, -⟩ := Select.filtered_finish filtered
  refine finish_spells filtered ?_ clean
  rw [named, all]
  exact clean_append (clean_append (by decide) cleanTable) (by decide)

theorem counting_spells (made : counting table cs = .ok s) (cleanTable : '?' ∉ table.toList)
    (clean : ∀ c ∈ cs, '?' ∉ c.field.toList) : Spells (Filter.parts cs) s.text s.params := by
  obtain ⟨select, filtered, made⟩ := bind_ok made
  obtain rfl := Except.ok.inj made
  obtain ⟨⟨named, -, all⟩, -⟩ := Select.filtered_finish filtered
  refine finish_spells filtered ?_ clean
  rw [named, all]
  exact clean_append (clean_append (by decide) cleanTable) (by decide)

/-! ### Limits -/

theorem clean_natText (n : Nat) : '?' ∉ (Text.natText n).toList := by
  intro member
  have digit : '?'.isDigit = true := Text.isDigit_of_mem_natText member
  cases digit

theorem clean_intText (n : Int) : '?' ∉ (Text.intText n).toList := by
  rw [Text.intText]
  by_cases negative : n < 0
  · rw [if_pos negative]
    exact clean_append (by decide) (clean_natText _)
  · rw [if_neg negative]
    exact clean_natText _

theorem clean_limitClause (start size : Int) : '?' ∉ (limitClause start size).toList :=
  clean_append (clean_append (clean_append (by decide) (clean_intText _)) (by decide))
    (clean_intText _)

theorem pageSelection_spells {page size : Int} (made : pageSelection table page size cs = .ok s)
    (cleanTable : '?' ∉ table.toList) (clean : ∀ c ∈ cs, '?' ∉ c.field.toList) :
    Spells (Filter.parts cs) s.text s.params := by
  obtain ⟨all, selected, made⟩ := bind_ok made
  obtain ⟨limit, limited, made⟩ := bind_ok made
  obtain rfl := Except.ok.inj made
  refine (selection_spells selected cleanTable clean).thenWords ?_
  rw [limitText] at limited
  split at limited
  · obtain rfl := Except.ok.inj limited
    exact clean_limitClause _ _
  · cases limited

/-! ### Insert and delete statements -/

theorem insertion_spells {values : List (String × Value)} (made : insertion table values = .ok s)
    (cleanTable : '?' ∉ table.toList) (clean : ∀ entry ∈ values, '?' ∉ entry.1.toList) :
    Spells [.row (values.filter fun entry => !entry.2.isNull)] s.text s.params := by
  obtain ⟨t, written, made⟩ := bind_ok made
  obtain rfl := Except.ok.inj made
  rw [insertText] at written
  split at written
  · cases written
  · obtain rfl := Except.ok.inj written
    generalize kept : (values.filter fun entry => !entry.2.isNull) = entries
    have spelled := (Spells.ofPart (Part.aligned_row (clean_filter kept clean))).words
      (clean_append (show '?' ∉ "insert into ".toList by decide) cleanTable)
    have same : "insert into " ++ table ++ (Part.row entries).text =
        "insert into " ++ table ++ "(" ++ ",".intercalate (entries.map (·.1)) ++ ") values (" ++
          Text.repeated "?" ", " (entries.map (·.1)).length ++ ")" := by
      simp only [Part.text, Text.repeated, List.map_const', List.length_map, String.append_assoc]
    rw [same] at spelled
    exact spelled

theorem clean_deleteText (cleanTable : '?' ∉ table.toList) : '?' ∉ (deleteText table).toList :=
  clean_append (clean_append (by decide) cleanTable) (by decide)

theorem deletion_spells (made : deletion table cs = .ok s) (cleanTable : '?' ∉ table.toList)
    (clean : ∀ c ∈ cs, '?' ∉ c.field.toList) : Spells (Filter.parts cs) s.text s.params := by
  obtain ⟨filter, built, made⟩ := bind_ok made
  obtain rfl := Except.ok.inj made
  obtain ⟨rendered, values⟩ := Filter.build_text built
  have spelled := (Filter.spells_where rendered clean).words (clean_deleteText cleanTable)
  have same : deleteTextWhere table filter.text =
      deleteText table ++ if Text.blank filter.text then "" else "where " ++ filter.text := by
    rw [deleteTextWhere]
    split
    · rw [String.append_empty]
    · rw [String.append_assoc]
  rw [same, values]
  exact spelled

theorem deleteByKeyStatement_spells {key : List String} {values : List (String × Value)}
    (made : deleteByKeyStatement table key values = .ok s) (cleanTable : '?' ∉ table.toList)
    (clean : ∀ entry ∈ values, '?' ∉ entry.1.toList) :
    Spells (Part.equalities (values.filter fun entry => key.contains entry.1)) s.text s.params := by
  rw [deleteByKeyStatement] at made
  generalize kept : (values.filter fun entry => key.contains entry.1) = keys at made ⊢
  have cleanKeys := clean_filter kept clean
  cases keys with
  | nil => cases made
  | cons entry rest =>
    obtain rfl := Except.ok.inj made
    have spelled := (equalities_spells (show '?' ∉ " and ".toList by decide) cleanKeys).words
      (clean_append (clean_deleteText cleanTable) (show '?' ∉ "where ".toList by decide))
    simp only [deleteTextByColumns, equalities, List.map_map, Function.comp_def] at spelled ⊢
    exact spelled

/-! ### Update statements -/

theorem clean_updateTable (cleanTable : '?' ∉ table.toList) :
    '?' ∉ (Update.table table).text.toList :=
  clean_append (clean_append (by decide) cleanTable) (by decide)

theorem updating_spells {a : Assignments} (made : updating table a cs = .ok s)
    (cleanTable : '?' ∉ table.toList) (cleanColumns : ∀ entry ∈ a.entries, '?' ∉ entry.1.toList)
    (clean : ∀ c ∈ cs, '?' ∉ c.field.toList) :
    Spells (Part.equalities a.entries ++ Filter.parts cs) s.text s.params := by
  obtain ⟨filter, built, made⟩ := bind_ok made
  obtain rfl := Except.ok.inj made
  obtain ⟨rendered, values⟩ := Filter.build_text built
  have assigned : Spells (Part.equalities a.entries)
      ((Update.table table).text ++ a.phrase ++ " ") a.params :=
    ((equalities_spells (by decide) cleanColumns).words (clean_updateTable cleanTable)).thenWords
      (by decide)
  have conditioned := (Filter.spells_where rendered clean).thenWords
    (show '?' ∉ " ".toList by decide)
  have same : ((Update.table table).set a.phrase).whereText filter.text =
      (Update.table table).text ++ a.phrase ++ " " ++
        ((if Text.blank filter.text then "" else "where " ++ filter.text) ++ " ") := by
    rw [Update.whereText, Update.set]
    split
    · rw [String.empty_append]
    · simp only [String.append_assoc]
  rw [same, values]
  exact assigned.append conditioned

/-- An update by a key needs a column of the key and another one. Its text is the assignments of the
other columns, and behind them the equalities of those of the key. -/
theorem updateByKeyStatement_eq {key : List String} {values keys others : List (String × Value)}
    (isKeys : values.filter (fun entry => key.contains entry.1) = keys)
    (isOthers : values.filter (fun entry => !key.contains entry.1) = others) :
    updateByKeyStatement table key values =
      if others = [] ∨ keys = [] then .error (.invalidArgument .noColumns)
      else .ok
        { text := (Update.table table).text ++
            ", ".intercalate (others.map fun entry => entry.1 ++ " = ?") ++ " " ++
              ("where " ++ equalities (keys.map (·.1)))
          params := others.map (·.2) ++ keys.map (·.2) } := by
  have split : values.partition (fun entry => key.contains entry.1) = (keys, others) := by
    rw [List.partition_eq_filter_filter, isKeys, ← isOthers]
    rfl
  rw [updateByKeyStatement, split]
  cases others with
  | nil => rfl
  | cons other others =>
    cases keys with
    | nil => rfl
    | cons entry keys =>
      rw [if_neg (by simp)]
      refine congrArg Except.ok (congrArg (Statement.mk · _) ?_)
      -- The separator between two columns carries the mark of the first of them.
      have listed := intercalate_suffix ", " " = ?" ((other :: others).map (·.1))
        (List.cons_ne_nil _ _)
      rw [List.map_map] at listed
      simp only [Function.comp_def] at listed
      rw [← listed]
      simp only [String.append_assoc]
      rfl

theorem updateByKeyStatement_spells {key : List String} {values : List (String × Value)}
    (made : updateByKeyStatement table key values = .ok s) (cleanTable : '?' ∉ table.toList)
    (clean : ∀ entry ∈ values, '?' ∉ entry.1.toList) :
    Spells (Part.equalities (values.filter fun entry => !key.contains entry.1) ++
      Part.equalities (values.filter fun entry => key.contains entry.1)) s.text s.params := by
  generalize isKeys : values.filter (fun entry => key.contains entry.1) = keys
  generalize isOthers : values.filter (fun entry => !key.contains entry.1) = others
  rw [updateByKeyStatement_eq isKeys isOthers] at made
  have cleanKeys := clean_filter isKeys clean
  have cleanOthers := clean_filter isOthers clean
  have assigned := ((equalities_spells (show '?' ∉ ", ".toList by decide) cleanOthers).words
    (clean_updateTable cleanTable)).thenWords (show '?' ∉ " ".toList by decide)
  have compared := (equalities_spells (show '?' ∉ " and ".toList by decide) cleanKeys).words
    (show '?' ∉ "where ".toList by decide)
  split at made
  · cases made
  · obtain rfl := Except.ok.inj made
    rw [equalities, List.map_map]
    exact assigned.append compared

end Gateway

end SqlRecords
