import SqlRecords.Access.Gateway
import SqlRecords.Proofs.Filter.Request

/-!
# Filters without their values

`Filter.text_erased` shows that the text of a filter is the text of the filter in which every
value is null. Two requests whose entries differ in their values alone ask for filters that erase
to the same one, so that no value of a request reaches the text of a statement.
-/

namespace SqlRecords

namespace Criterion

/-- The criterion with null in the place of each value. -/
def erased (c : Criterion) : Criterion :=
  { c with value := c.value.map fun _ => .null, values := c.values.map fun _ => .null }

theorem isPresent_erased (c : Criterion) : c.erased.isPresent = c.isPresent := by
  simp only [isPresent, erased, Option.isSome_map, List.isEmpty_map]

theorem fragment_erased (c : Criterion) (joint : Joint) :
    c.erased.fragment joint = c.fragment joint := by
  simp [fragment, erased]

end Criterion

namespace Filter

theorem predicatesText_erased (first : Bool) (cs : List Criterion) :
    predicatesText first (cs.map Criterion.erased) = predicatesText first cs := by
  induction cs generalizing first with
  | nil => rfl
  | cons c rest ih =>
    rw [List.map_cons, predicatesText, predicatesText, Criterion.isPresent_erased,
      Criterion.fragment_erased, ih, ih]
    rfl

theorem orderingsText_erased (cs : List Criterion) :
    orderingsText (cs.map Criterion.erased) = orderingsText cs := by
  have kept : (cs.map Criterion.erased).filter Criterion.isOrdering =
      (cs.filter Criterion.isOrdering).map Criterion.erased := by
    rw [List.filter_map]
    rfl
  rw [orderingsText, orderingsText, kept]
  cases cs.filter Criterion.isOrdering with
  | nil => rfl
  | cons c rest =>
    rw [List.map_cons]
    simp only [← List.map_cons, List.map_map]
    rfl

/-- No value shows in the text of a filter, nor in the error of one that has no text. -/
theorem text_erased (cs : List Criterion) : text (cs.map Criterion.erased) = text cs := by
  rw [text, text, predicatesText_erased, orderingsText_erased]

theorem text_congr {cs ds : List Criterion}
    (same : cs.map Criterion.erased = ds.map Criterion.erased) : text cs = text ds := by
  rw [← text_erased cs, ← text_erased ds, same]

end Filter

/-! ### Statements around a filter -/

theorem Select.filtered_congr {cs ds : List Criterion} (same : Filter.text cs = Filter.text ds)
    (s : Select) : s.filtered cs = s.filtered ds := by
  rw [filtered, filtered, same]

namespace Gateway

variable {cs ds : List Criterion} (same : Filter.text cs = Filter.text ds) (table : String)

include same

theorem selection_text_congr :
    (selection table cs).map Statement.text = (selection table ds).map Statement.text := by
  rw [selection, selection, Select.filtered_congr same]
  cases Select.filtered { table := table } ds <;> rfl

theorem counting_text_congr :
    (counting table cs).map Statement.text = (counting table ds).map Statement.text := by
  rw [counting, counting, Select.filtered_congr same]
  cases Select.filtered { table := table } ds <;> rfl

theorem deletion_text_congr :
    (deletion table cs).map Statement.text = (deletion table ds).map Statement.text := by
  rw [deletion, deletion, Filter.build, Filter.build, same]
  cases Filter.text ds <;> rfl

end Gateway

theorem MatchCode.splits_of_isOrdering {code : MatchCode} (orders : code.isOrdering = true) :
    code.splits = false := by
  cases code with
  | ascending | descending => rfl
  | _ => cases orders

namespace FilterKey

/-! ### Requests that differ in their values -/

/-- The key of the entry asks for a list with commas: a membership or a range. -/
def Lists (lead : String) (entry : String × String) : Prop :=
  ∃ encoded type code field, entry.1 = lead ++ "-" ++ encoded ∧
    Names encoded (some type) code field ∧ code ∈ [.among, .notAmong, .between]

/-- The entries have one key, both or neither has a value, and the values have as many commas if
the key asks for a list. -/
structure Alike (lead : String) (left right : String × String) : Prop where
  key : left.1 = right.1
  empty : left.2 = "" ↔ right.2 = ""
  commas : Lists lead left → left.2.toList.count ',' = right.2.toList.count ','

/-- The erased criterion of a key whose entry has a value with so many commas. -/
def erasedCriterion (type : Option TypeCode) (code : MatchCode) (field : String) (commas : Nat) :
    Criterion :=
  let c := Criterion.bare code.operator field
  if code.splits then { c with values := List.replicate (commas + 1) .null }
  else { c with value := type.map fun _ => .null }

variable {lead : String}

theorem Asks.erased {entry : String × String} {c : Criterion} (asked : Asks lead entry c) :
    ∃ encoded type code field, Encodes lead entry encoded ∧ Names encoded type code field ∧
      c.erased = erasedCriterion type code field (entry.2.toList.count ',') := by
  cases asked with
  | @ordering encoded field code encodes names =>
    have whole := MatchCode.splits_of_isOrdering names.isOrdering
    refine ⟨encoded, none, code, field, encodes, names, ?_⟩
    rw [erasedCriterion, whole]
    rfl
  | @one encoded field code type v encodes names whole read =>
    refine ⟨encoded, some type, code, field, encodes, names, ?_⟩
    rw [erasedCriterion, whole]
    rfl
  | @many encoded field code type vs encodes names splits read =>
    refine ⟨encoded, some type, code, field, encodes, names, ?_⟩
    have nulls : vs.map (fun _ => Value.null) =
        List.replicate (entry.2.toList.count ',' + 1) .null := by
      rw [List.map_const', ← read.length_eq, Text.length_split]
    rw [erasedCriterion, splits, Criterion.erased, nulls]
    rfl

theorem Alike.counts_iff {left right : String × String} (alike : Alike lead left right) :
    Counts lead left ↔ Counts lead right := by
  simp only [Counts, Encodes, alike.key, ne_eq, alike.empty]

theorem Alike.erased_eq {left right : String × String} {c d : Criterion}
    (alike : Alike lead left right) (asksLeft : Asks lead left c) (asksRight : Asks lead right d) :
    c.erased = d.erased := by
  obtain ⟨encoded, type, code, field, encodes, names, shown⟩ := asksLeft.erased
  obtain ⟨encoded', type', code', field', encodes', names', shown'⟩ := asksRight.erased
  obtain rfl := encodes.unique (alike.key.trans encodes'.1)
  obtain ⟨rfl, rfl, rfl⟩ := names.unique names'
  rw [shown, shown']
  -- Only a list shows how many commas its value has.
  cases splits : code.splits with
  | false =>
    rw [erasedCriterion, erasedCriterion, splits]
    rfl
  | true =>
    cases type with
    | none =>
      rw [MatchCode.splits_of_isOrdering names.isOrdering] at splits
      cases splits
    | some type =>
      have lists : Lists lead left :=
        ⟨encoded, type, code, field, encodes.1, names, (MatchCode.splits_iff code).mp splits⟩
      rw [alike.commas lists]

theorem erased_of_asks {left right : List (String × String)} {cs ds : List Criterion}
    (alike : List.Forall₂ (Alike lead) left right) (asksLeft : List.Forall₂ (Asks lead) left cs)
    (asksRight : List.Forall₂ (Asks lead) right ds) :
    cs.map Criterion.erased = ds.map Criterion.erased := by
  induction alike generalizing cs ds with
  | nil =>
    cases asksLeft
    cases asksRight
    rfl
  | cons here later ih =>
    cases asksLeft with
    | cons askLeft moreLeft =>
      cases asksRight with
      | cons askRight moreRight =>
        rw [List.map_cons, List.map_cons, here.erased_eq askLeft askRight, ih moreLeft moreRight]

/-- What a request and a request with other values ask for. -/
structure SameText (cs ds : List Criterion) : Prop where
  /-- The filters have one text, or one error. -/
  filter : Filter.text cs = Filter.text ds
  /-- They put one condition, or none, behind what a statement selects or counts. -/
  filtered : ∀ s : Select, s.filtered cs = s.filtered ds
  selection : ∀ table, (Gateway.selection table cs).map Statement.text =
    (Gateway.selection table ds).map Statement.text
  counting : ∀ table, (Gateway.counting table cs).map Statement.text =
    (Gateway.counting table ds).map Statement.text
  deletion : ∀ table, (Gateway.deletion table cs).map Statement.text =
    (Gateway.deletion table ds).map Statement.text

/-- The values of a request never reach the text of a statement. -/
theorem sameText_of_alike (lead : String) (left right : List (String × String))
    (cs ds : List Criterion) (alike : List.Forall₂ (Alike lead) left right)
    (parsedLeft : parseAll lead left = .ok cs) (parsedRight : parseAll lead right = .ok ds) :
    SameText cs ds := by
  have counted : List.Forall₂ (Alike lead) (left.filter (Counts lead ·))
      (right.filter (Counts lead ·)) :=
    List.rel_filter (fun _ _ here => by simpa using here.counts_iff) alike
  have erased := erased_of_asks counted (parseAll_ok_iff.mp parsedLeft)
    (parseAll_ok_iff.mp parsedRight)
  have same := Filter.text_congr erased
  exact ⟨same, Select.filtered_congr same, Gateway.selection_text_congr same,
    Gateway.counting_text_congr same, Gateway.deletion_text_congr same⟩

/-- The keys of `visit` with other values. -/
def otherVisit : List (String × String) :=
  [("page", "3"), ("Q-S-EQ-name", ""), ("Q-OD-at", "y"), ("Q-C-BT-code", "?,'"),
    ("Q-S-EQ-note", "' or 1 = 1"), ("Q-S-NI-kind", ",y,z")]

/-- What `otherVisit` asks for. -/
def otherVisitCriteria : List Criterion :=
  [.bare .descending "at", .between "code" (.char '?') (.char '\''),
    .compare .eq "note" (.text "' or 1 = 1"), .notAmong "kind" [.text "", .text "y", .text "z"]]

theorem sameText_of_alike_visit :
    List.Forall₂ (Alike defaultLead) visit otherVisit ∧ SameText visitCriteria otherVisitCriteria :=
  have alike : List.Forall₂ (Alike defaultLead) visit otherVisit := by
    refine .cons ?_ (.cons ?_ (.cons ?_ (.cons ?_ (.cons ?_ (.cons ?_ .nil)))))
    all_goals exact ⟨rfl, by decide, fun _ => by decide⟩
  have parsed : parseAll defaultLead otherVisit = .ok otherVisitCriteria := by
    simp only [otherVisit, parseAll, parse, startsWith_O]
    rfl
  ⟨alike, sameText_of_alike defaultLead visit otherVisit visitCriteria otherVisitCriteria alike
    parseAll_visit parsed⟩

end FilterKey

end SqlRecords
