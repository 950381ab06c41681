import SqlRecords.Text.Pieces

/-!
# Cutting texts

What `pieces` and `cut` find: words that hold no separator are the pieces of the text that joins
them, and the first cut is the one with no separator before it.
-/

namespace SqlRecords.Text

theorem pieces_ne_nil (separator : Char) (s : List Char) : pieces separator s ≠ [] := by
  cases s with
  | nil => exact List.cons_ne_nil _ _
  | cons c rest =>
    rw [pieces]
    split
    · exact List.cons_ne_nil _ _
    · split
      · exact List.cons_ne_nil _ _
      · exact List.cons_ne_nil _ _

theorem length_pieces (separator : Char) (s : List Char) :
    (pieces separator s).length = s.count separator + 1 := by
  induction s with
  | nil => rfl
  | cons c rest ih =>
    rw [pieces]
    by_cases ends : c = separator
    · rw [if_pos ends, List.length_cons, ih, ends, List.count_cons_self]
    · rw [if_neg ends, List.count_cons_of_ne ends]
      cases h : pieces separator rest with
      | nil => exact absurd h (pieces_ne_nil separator rest)
      | cons piece more =>
        rw [h] at ih
        exact ih

theorem length_split (separator : Char) (s : String) :
    (split separator s).length = s.toList.count separator + 1 := by
  rw [split, List.length_map, length_pieces]

theorem pieces_append {separator : Char} {word : List Char} (absent : separator ∉ word)
    (rest : List Char) :
    pieces separator (word ++ separator :: rest) = word :: pieces separator rest := by
  induction word with
  | nil => simp [pieces]
  | cons c word ih =>
    have other : c ≠ separator := fun same => absent (same ▸ List.mem_cons_self)
    have later := ih fun member => absent (List.mem_cons_of_mem _ member)
    rw [List.cons_append, pieces, if_neg other, later]

theorem pieces_of_notMem {separator : Char} {word : List Char} (absent : separator ∉ word) :
    pieces separator word = [word] := by
  induction word with
  | nil => rfl
  | cons c word ih =>
    have other : c ≠ separator := fun same => absent (same ▸ List.mem_cons_self)
    have later := ih fun member => absent (List.mem_cons_of_mem _ member)
    rw [pieces, if_neg other, later]

theorem pieces_intercalate {separator : Char} {words : List (List Char)}
    (whole : ∀ w ∈ words, separator ∉ w) (present : words ≠ []) :
    pieces separator ([separator].intercalate words) = words := by
  induction words with
  | nil => exact absurd rfl present
  | cons w rest ih =>
    have here := whole w List.mem_cons_self
    cases rest with
    | nil => rw [List.intercalate_singleton, pieces_of_notMem here]
    | cons v rest =>
      have later := ih (fun u member => whole u (List.mem_cons_of_mem w member)) nofun
      rw [List.intercalate_cons_cons, List.append_assoc, List.singleton_append,
        pieces_append here, later]

theorem intercalate_pieces (separator : Char) (s : List Char) :
    [separator].intercalate (pieces separator s) = s := by
  induction s with
  | nil => rfl
  | cons c rest ih =>
    rw [pieces]
    cases found : pieces separator rest with
    | nil => exact absurd found (pieces_ne_nil separator rest)
    | cons piece more =>
      rw [found] at ih
      split
      case isTrue ends =>
        rw [List.intercalate_cons_cons, ih, ends]
        rfl
      case isFalse =>
        rw [← ih]
        cases more with
        | nil => rfl
        | cons next more =>
          rw [List.intercalate_cons_cons, List.intercalate_cons_cons]
          rfl

theorem notMem_intercalate {c : Char} {separator : String} (between : c ∉ separator.toList)
    {texts : List String} (inside : ∀ t ∈ texts, c ∉ t.toList) :
    c ∉ (separator.intercalate texts).toList := by
  induction texts with
  | nil => simp
  | cons t rest ih =>
    have here := inside t List.mem_cons_self
    have later := ih fun u member => inside u (List.mem_cons_of_mem _ member)
    cases rest with
    | nil => simpa using here
    | cons u rest =>
      rw [String.intercalate_cons_cons]
      simp only [String.toList_append, List.mem_append, not_or]
      exact ⟨⟨here, between⟩, later⟩

theorem notMem_of_mem_pieces {separator : Char} {s piece : List Char}
    (member : piece ∈ pieces separator s) : separator ∉ piece := by
  induction s generalizing piece with
  | nil =>
    rw [List.mem_singleton.mp member]
    exact List.not_mem_nil
  | cons c rest ih =>
    rw [pieces] at member
    split at member
    case isTrue =>
      cases member with
      | head => exact List.not_mem_nil
      | tail _ member => exact ih member
    case isFalse other =>
      cases found : pieces separator rest with
      | nil => exact absurd found (pieces_ne_nil separator rest)
      | cons word more =>
        rw [found] at member ih
        cases member with
        | head =>
          rw [List.mem_cons, not_or]
          exact ⟨Ne.symm other, ih List.mem_cons_self⟩
        | tail _ member => exact ih (List.mem_cons_of_mem word member)

/-- The pieces are the only words without a separator that joined by it give the text. -/
theorem pieces_eq_iff {separator : Char} {s : List Char} {words : List (List Char)} :
    pieces separator s = words ↔
      words ≠ [] ∧ (∀ w ∈ words, separator ∉ w) ∧ [separator].intercalate words = s := by
  constructor
  · rintro rfl
    exact ⟨pieces_ne_nil separator s, fun _ => notMem_of_mem_pieces, intercalate_pieces separator s⟩
  · rintro ⟨present, whole, rfl⟩
    exact pieces_intercalate whole present

theorem cut_eq_some_iff {separator : Char} {s before after : List Char} :
    cut separator s = some (before, after) ↔
      s = before ++ separator :: after ∧ separator ∉ before := by
  induction s generalizing before with
  | nil => simp [cut]
  | cons c rest ih =>
    rw [cut]
    by_cases ends : c = separator
    · subst ends
      rw [if_pos rfl]
      cases before with
      | nil => simp
      | cons b before =>
        constructor
        · intro same
          cases same
        · rintro ⟨same, absent⟩
          obtain ⟨rfl, -⟩ := List.cons.inj same
          exact absurd List.mem_cons_self absent
    · rw [if_neg ends]
      cases before with
      | nil => simp [ends]
      | cons b before =>
        rw [List.cons_append, List.cons.injEq, List.mem_cons, not_or, Option.map_eq_some_iff]
        constructor
        · rintro ⟨⟨before', after'⟩, found, same⟩
          obtain ⟨rfl, rfl⟩ : c = b ∧ before' = before := by simpa using congrArg Prod.fst same
          obtain rfl : after' = after := congrArg Prod.snd same
          obtain ⟨joined, absent⟩ := ih.mp found
          exact ⟨⟨rfl, joined⟩, Ne.symm ends, absent⟩
        · rintro ⟨⟨rfl, joined⟩, -, absent⟩
          exact ⟨(before, after), ih.mpr ⟨joined, absent⟩, rfl⟩

theorem cut_eq_none_iff {separator : Char} {s : List Char} :
    cut separator s = none ↔ separator ∉ s := by
  induction s with
  | nil => exact iff_of_true rfl List.not_mem_nil
  | cons c rest ih =>
    rw [cut, List.mem_cons, not_or]
    by_cases ends : c = separator
    · rw [if_pos ends]
      exact iff_of_false nofun fun absent => absent.1 ends.symm
    · rw [if_neg ends, Option.map_eq_none_iff, ih, and_iff_right (Ne.symm ends)]

theorem dashed_toList (a b : String) : (a ++ "-" ++ b).toList = a.toList ++ '-' :: b.toList := by
  rw [String.toList_append, String.toList_append, List.append_assoc]
  rfl

theorem splitFirst_eq_some_iff {s a b : String} :
    splitFirst '-' s = some (a, b) ↔ s = a ++ "-" ++ b ∧ '-' ∉ a.toList := by
  rw [splitFirst, Option.map_eq_some_iff, ← String.toList_inj, dashed_toList]
  constructor
  · rintro ⟨⟨before, after⟩, found, same⟩
    obtain rfl : String.ofList before = a := congrArg Prod.fst same
    obtain rfl : String.ofList after = b := congrArg Prod.snd same
    rw [String.toList_ofList, String.toList_ofList]
    exact cut_eq_some_iff.mp found
  · intro parts
    refine ⟨(a.toList, b.toList), cut_eq_some_iff.mpr parts, ?_⟩
    simp only [String.ofList_toList]

theorem splitFirst_eq_none_iff {s : String} : splitFirst '-' s = none ↔ '-' ∉ s.toList := by
  rw [splitFirst, Option.map_eq_none_iff, cut_eq_none_iff]

theorem afterLead_eq_some_iff {lead s rest : List Char} :
    afterLead lead s = some rest ↔ s = lead ++ rest := by
  induction lead generalizing s with
  | nil => simp [afterLead]
  | cons l lead ih =>
    cases s with
    | nil => simp [afterLead]
    | cons c s =>
      rw [afterLead, List.cons_append, List.cons.injEq]
      by_cases same : l = c
      · rw [if_pos same, ih, and_iff_right same.symm]
      · rw [if_neg same]
        constructor
        · intro found
          cases found
        · rintro ⟨found, -⟩
          exact absurd found.symm same

end SqlRecords.Text
