import SqlRecords.Proofs.Outcome
import SqlRecords.Row

/-!
# What a row holds

The first column of a label holds the value that is read under it. A row may show its entries in any
order and in letters of either case: each is found as long as its label says what it holds.
-/

namespace SqlRecords

namespace Text

theorem sameIgnoringCase_iff {a b : String} :
    sameIgnoringCase a b = true ↔ a.toList.map Char.toLower = b.toList.map Char.toLower := by
  rw [sameIgnoringCase, beq_iff_eq]

theorem sameIgnoringCase_symm {a b : String} (same : sameIgnoringCase a b = true) :
    sameIgnoringCase b a = true :=
  sameIgnoringCase_iff.mpr (sameIgnoringCase_iff.mp same).symm

theorem sameIgnoringCase_trans {a b c : String} (first : sameIgnoringCase a b = true)
    (second : sameIgnoringCase b c = true) : sameIgnoringCase a c = true :=
  sameIgnoringCase_iff.mpr
    ((sameIgnoringCase_iff.mp first).trans (sameIgnoringCase_iff.mp second))

end Text

namespace Row

open Text

/-- The first column of the label holds the value. -/
def Holds (row : Row) (column : String) (v : Value) : Prop :=
  ∃ before label after, row.cells = before ++ (label, v) :: after ∧
    sameIgnoringCase label column = true ∧
      ∀ cell ∈ before, ¬ sameIgnoringCase cell.1 column = true

/-- No column has the label. -/
def Lacks (row : Row) (column : String) : Prop :=
  ∀ cell ∈ row.cells, ¬ sameIgnoringCase cell.1 column = true

theorem get?_eq_some_iff {row : Row} {column : String} {v : Value} :
    row.get? column = some v ↔ row.Holds column v := by
  rw [get?, Option.map_eq_some_iff]
  constructor
  · rintro ⟨⟨label, w⟩, found, rfl⟩
    obtain ⟨same, before, after, split, earlier⟩ := List.find?_eq_some_iff_append.mp found
    exact ⟨before, label, after, split, same, fun cell member => by simpa using earlier cell member⟩
  · rintro ⟨before, label, after, split, same, earlier⟩
    refine ⟨(label, v), List.find?_eq_some_iff_append.mpr ⟨same, before, after, split, ?_⟩, rfl⟩
    intro cell member
    simpa using earlier cell member

theorem get?_eq_none_iff {row : Row} {column : String} :
    row.get? column = none ↔ row.Lacks column := by
  rw [get?, Option.map_eq_none_iff, List.find?_eq_none]
  rfl

theorem exists_cell_of_get? {row : Row} {column : String} {v : Value}
    (found : row.get? column = some v) :
    ∃ label, (label, v) ∈ row.cells ∧ sameIgnoringCase label column = true := by
  obtain ⟨before, label, after, split, same, -⟩ := get?_eq_some_iff.mp found
  refine ⟨label, ?_, same⟩
  rw [split]
  exact List.mem_append_right before List.mem_cons_self

/-! ### Rows that show given entries -/

/-- The row has a column for each entry and no other, in any order and in letters of either case. -/
def Shows (row : Row) (entries : List (String × Value)) : Prop :=
  ∃ arranged, arranged.Perm entries ∧
    List.Forall₂ (fun cell entry => sameIgnoringCase cell.1 entry.1 = true ∧ cell.2 = entry.2)
      row.cells arranged

variable {row : Row} {entries : List (String × Value)} {column : String} {v : Value}

theorem Shows.exists_entry (shown : row.Shows entries) {cell : String × Value}
    (member : cell ∈ row.cells) :
    ∃ entry ∈ entries, sameIgnoringCase cell.1 entry.1 = true ∧ cell.2 = entry.2 := by
  obtain ⟨arranged, perm, related⟩ := shown
  obtain ⟨entry, present, same⟩ := exists_left_of_forall₂ related.flip member
  exact ⟨entry, perm.mem_iff.mp present, same⟩

theorem Shows.exists_cell (shown : row.Shows entries) {entry : String × Value}
    (member : entry ∈ entries) :
    ∃ cell ∈ row.cells, sameIgnoringCase cell.1 entry.1 = true ∧ cell.2 = entry.2 := by
  obtain ⟨arranged, perm, related⟩ := shown
  exact exists_left_of_forall₂ related (perm.mem_iff.mpr member)

theorem Shows.get?_eq_none (shown : row.Shows entries)
    (absent : ∀ entry ∈ entries, ¬ sameIgnoringCase entry.1 column = true) :
    row.get? column = none := by
  rw [get?_eq_none_iff]
  intro cell member same
  obtain ⟨entry, present, alike, -⟩ := shown.exists_entry member
  exact absent entry present (sameIgnoringCase_trans (sameIgnoringCase_symm alike) same)

theorem Shows.get?_eq_some (shown : row.Shows entries) (member : (column, v) ∈ entries)
    (only : ∀ entry ∈ entries, sameIgnoringCase entry.1 column = true → entry.2 = v) :
    row.get? column = some v := by
  cases found : row.get? column with
  | none =>
    obtain ⟨cell, present, same, -⟩ := shown.exists_cell member
    exact absurd same (get?_eq_none_iff.mp found cell present)
  | some w =>
    obtain ⟨label, present, same⟩ := exists_cell_of_get? found
    obtain ⟨entry, isEntry, alike, held⟩ := shown.exists_entry present
    have here : entry.2 = v :=
      only entry isEntry (sameIgnoringCase_trans (sameIgnoringCase_symm alike) same)
    exact congrArg some (held.trans here)

end Row

end SqlRecords
