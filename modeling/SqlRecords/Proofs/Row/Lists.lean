import Mathlib.Data.List.Forall2
import SqlRecords.Proofs.Row

/-!
# Rows as two lists

A row can be kept as a list of labels and a list of values: a position is found in one of them and
used in the other. `Row.made_reads` shows that this reads as the row of pairs does, for every row
that is made of two lists and then gets further columns, and what it reads.
-/

namespace SqlRecords

/-! ### Labels that differ in case -/

namespace Text

/-- The characters are the same, or the upper case and the lower case of one letter A to Z. -/
def SameLetter (c d : Char) : Prop :=
  c = d ∨ (c.isUpper = true ∧ d.toNat = c.toNat + 32) ∨
    (d.isUpper = true ∧ c.toNat = d.toNat + 32)

/-- The texts have the same letters at every position. -/
def Alike (a b : String) : Prop := List.Forall₂ SameLetter a.toList b.toList

theorem isUpper_iff (c : Char) : c.isUpper = true ↔ 65 ≤ c.toNat ∧ c.toNat ≤ 90 :=
  decide_eq_true_iff

theorem toNat_toLower (c : Char) :
    c.toLower.toNat = if 65 ≤ c.toNat ∧ c.toNat ≤ 90 then c.toNat + 32 else c.toNat := by
  by_cases upper : 65 ≤ c.toNat ∧ c.toNat ≤ 90
  · have raised : c.toLower.val = c.val + 32 := congrArg Char.val (dif_pos upper)
    have inside : c.val.toNat + 32 < 2 ^ 32 := by
      have : c.val.toNat ≤ 90 := upper.2
      omega
    rw [if_pos upper, ← Char.toNat_val, raised, UInt32.toNat_add]
    exact Nat.mod_eq_of_lt inside
  · have same : c.toLower = c := dif_neg upper
    rw [if_neg upper, same]

theorem toLower_eq_iff (c d : Char) : c.toLower = d.toLower ↔ SameLetter c d := by
  rw [SameLetter, isUpper_iff, isUpper_iff, ← Char.toNat_inj, ← Char.toNat_inj, toNat_toLower,
    toNat_toLower]
  split_ifs <;> omega

theorem sameIgnoringCase_iff_alike (a b : String) : sameIgnoringCase a b = true ↔ Alike a b := by
  rw [sameIgnoringCase_iff, Alike, ← List.forall₂_eq_eq_eq, List.forall₂_map_left_iff,
    List.forall₂_map_right_iff]
  exact ⟨.imp fun c d => (toLower_eq_iff c d).mp, .imp fun c d => (toLower_eq_iff c d).mpr⟩

end Text

namespace Row

/-! ### Two lists -/

/-- A list of labels and a list of values. -/
structure Lists where
  columns : List String
  values : List Value

namespace Lists

/-- The lists, both cut to the length of the shorter one. -/
def cut (columns : List String) (values : List Value) : Lists :=
  let size := min columns.length values.length
  ⟨columns.take size, values.take size⟩

/-- The lists with a label and a value at their ends. -/
def push (lists : Lists) (column : String) (v : Value) : Lists :=
  ⟨lists.columns ++ [column], lists.values ++ [v]⟩

/-- The value at the first position of this label. -/
def get? (lists : Lists) (column : String) : Option Value :=
  (lists.columns.findIdx? fun label => Text.sameIgnoringCase label column).bind
    fun i => lists.values[i]?

/-- The position is the first one of the label. -/
def First (lists : Lists) (column : String) (i : Nat) : Prop :=
  (∃ label, lists.columns[i]? = some label ∧ Text.Alike label column) ∧
    ∀ j, j < i → ∀ label, lists.columns[j]? = some label → ¬ Text.Alike label column

theorem get?_eq_some_iff {lists : Lists} {column : String} {v : Value} :
    lists.get? column = some v ↔ ∃ i, lists.First column i ∧ lists.values[i]? = some v := by
  rw [get?, Option.bind_eq_some_iff]
  refine exists_congr fun i => and_congr_left fun _ => ?_
  rw [List.findIdx?_eq_some_iff_getElem]
  constructor
  · rintro ⟨inside, same, earlier⟩
    refine ⟨⟨_, List.getElem?_eq_getElem inside, (Text.sameIgnoringCase_iff_alike _ _).mp same⟩, ?_⟩
    rintro j before label found alike
    obtain ⟨_, rfl⟩ := List.getElem?_eq_some_iff.mp found
    exact earlier j before ((Text.sameIgnoringCase_iff_alike _ _).mpr alike)
  · rintro ⟨⟨label, found, alike⟩, earlier⟩
    obtain ⟨inside, rfl⟩ := List.getElem?_eq_some_iff.mp found
    refine ⟨inside, (Text.sameIgnoringCase_iff_alike _ _).mpr alike, fun j before same => ?_⟩
    exact earlier j before _ (List.getElem?_eq_getElem (Nat.lt_trans before inside))
      ((Text.sameIgnoringCase_iff_alike _ _).mp same)

/-- The lists, cut to one length, with further labels and values at their ends. -/
def made (columns : List String) (values : List Value) (added : List (String × Value)) : Lists :=
  added.foldl (fun lists cell => lists.push cell.1 cell.2) (cut columns values)

end Lists

/-- The row of two lists, with further columns at its end. -/
def made (columns : List String) (values : List Value) (added : List (String × Value)) : Row :=
  added.foldl (fun row cell => row.push cell.1 cell.2) (ofLists columns values)

/-- The row has the labels and the values of the lists. -/
def Has (row : Row) (lists : Lists) : Prop :=
  row.columns = lists.columns ∧ row.values = lists.values

variable {row : Row} {lists : Lists}

theorem has_cut (columns : List String) (values : List Value) :
    (ofLists columns values).Has (.cut columns values) := by
  rw [ofLists, List.zip_eq_zip_take_min]
  refine ⟨List.map_fst_zip ?_, List.map_snd_zip ?_⟩
  all_goals rw [List.length_take, List.length_take]; omega

theorem Has.push (has : row.Has lists) (column : String) (v : Value) :
    (row.push column v).Has (lists.push column v) := by
  obtain ⟨labels, values⟩ := has
  constructor
  · rw [columns, Row.push, List.map_append, Lists.push, ← labels]
    rfl
  · rw [Row.values, Row.push, List.map_append, Lists.push, ← values]
    rfl

theorem Has.pushes (has : row.Has lists) (added : List (String × Value)) :
    (added.foldl (fun row cell => row.push cell.1 cell.2) row).Has
      (added.foldl (fun lists cell => lists.push cell.1 cell.2) lists) := by
  induction added generalizing row lists with
  | nil => exact has
  | cons cell rest ih => exact ih (has.push cell.1 cell.2)

theorem has_made (columns : List String) (values : List Value) (added : List (String × Value)) :
    (made columns values added).Has (.made columns values added) :=
  (has_cut columns values).pushes added

theorem Has.even (has : row.Has lists) : lists.columns.length = lists.values.length := by
  rw [← has.1, ← has.2, columns, values, List.length_map, List.length_map]

theorem get?_eq_bind (row : Row) (column : String) :
    row.get? column = Lists.get? ⟨row.columns, row.values⟩ column := by
  obtain ⟨cells⟩ := row
  rw [get?, Lists.get?, columns, values]
  induction cells with
  | nil => rfl
  | cons cell rest ih =>
    rw [List.map_cons, List.map_cons, List.findIdx?_cons]
    by_cases same : Text.sameIgnoringCase cell.1 column = true
    · rw [List.find?_cons_of_pos (by exact same), if_pos same]
      rfl
    · rw [List.find?_cons_of_neg (by exact same), if_neg same, Option.bind_map]
      exact ih

theorem Has.get? (has : row.Has lists) (column : String) : row.get? column = lists.get? column := by
  rw [get?_eq_bind, has.1, has.2]

/-! ### Columns at the end -/

theorem get?_push (row : Row) (added : String) (v : Value) (column : String) :
    (row.push added v).get? column =
      (row.get? column).or
        (if Text.sameIgnoringCase added column = true then some v else none) := by
  rw [get?, push, List.find?_append, Option.map_or, get?]
  congr 1
  by_cases same : Text.sameIgnoringCase added column = true
  · rw [if_pos same, List.find?_cons_of_pos (by exact same)]
    rfl
  · rw [if_neg same, List.find?_cons_of_neg (by exact same)]
    rfl

theorem get?_push_of_contains {column : String} (known : row.contains column = true)
    (added : String) (v : Value) : (row.push added v).get? column = row.get? column := by
  obtain ⟨w, found⟩ := Option.isSome_iff_exists.mp known
  rw [get?_push, found, Option.some_or]

theorem contains_push (row : Row) (added : String) (v : Value) (column : String) :
    (row.push added v).contains column = true ↔
      row.contains column = true ∨ Text.sameIgnoringCase added column = true := by
  rw [contains, get?_push, Option.isSome_or, Bool.or_eq_true, contains]
  refine or_congr_right ?_
  by_cases same : Text.sameIgnoringCase added column = true
  · rw [if_pos same, Option.isSome_some, eq_self, true_iff]
    exact same
  · rw [if_neg same, Option.isSome_none]
    exact iff_of_false nofun same

theorem contains_iff (row : Row) (column : String) :
    row.contains column = true ↔
      ∃ label ∈ row.columns, Text.sameIgnoringCase label column = true := by
  rw [contains, get?, Option.isSome_map, List.find?_isSome, columns]
  simp only [List.mem_map, exists_exists_and_eq_and]

/-! ### Columns in another order -/

/-- No two columns have the same label. -/
def Distinct (row : Row) : Prop :=
  row.cells.Pairwise fun a b => ¬ Text.sameIgnoringCase a.1 b.1 = true

theorem Distinct.get?_eq_some_iff (distinct : row.Distinct) {column : String} {v : Value} :
    row.get? column = some v ↔
      ∃ label, (label, v) ∈ row.cells ∧ Text.sameIgnoringCase label column = true := by
  refine ⟨exists_cell_of_get?, ?_⟩
  rintro ⟨label, member, same⟩
  obtain ⟨before, after, split⟩ := List.append_of_mem member
  rw [Distinct, split, List.pairwise_append] at distinct
  refine Row.get?_eq_some_iff.mpr ⟨before, label, after, split, same, fun cell earlier alike => ?_⟩
  exact distinct.2.2 cell earlier _ List.mem_cons_self
    (Text.sameIgnoringCase_trans alike (Text.sameIgnoringCase_symm same))

theorem Distinct.of_perm {other : Row} (distinct : row.Distinct)
    (perm : other.cells.Perm row.cells) : other.Distinct :=
  (perm.pairwise_iff fun differ same => differ (Text.sameIgnoringCase_symm same)).mpr distinct

theorem Distinct.get?_of_perm {other : Row} (distinct : row.Distinct)
    (perm : other.cells.Perm row.cells) (column : String) :
    other.get? column = row.get? column := by
  refine Option.ext fun v => ?_
  rw [(distinct.of_perm perm).get?_eq_some_iff, distinct.get?_eq_some_iff]
  exact exists_congr fun label => and_congr_left fun _ => perm.mem_iff

theorem distinct_iff (row : Row) :
    row.Distinct ↔ row.columns.Pairwise fun a b => ¬ Text.Alike a b := by
  rw [Distinct, columns, List.pairwise_map]
  exact iff_of_eq (congrArg (List.Pairwise · row.cells)
    (funext₂ fun a b => propext (not_congr (Text.sameIgnoringCase_iff_alike a.1 b.1))))

/-! ### What a row reads -/

/-- The row reads what two lists hold. -/
structure Reads (row : Row) (lists : Lists) : Prop where
  columns : row.columns = lists.columns
  values : row.values = lists.values
  even : lists.columns.length = lists.values.length
  get? : ∀ column, row.get? column = lists.get? column
  /-- The value at the first position of a label is read under it. -/
  first : ∀ column v, row.get? column = some v ↔
    ∃ i, lists.First column i ∧ lists.values[i]? = some v
  contains : ∀ column, row.contains column = true ↔
    ∃ label ∈ lists.columns, Text.Alike label column
  /-- A further column changes nothing under the labels that are there. -/
  kept : ∀ column, row.contains column = true → ∀ added v,
    (row.push added v).get? column = row.get? column
  added : ∀ added v column, (row.push added v).contains column = true ↔
    row.contains column = true ∨ Text.Alike added column
  /-- Without labels that stand twice, the order of the columns does not count. -/
  rearranged : (lists.columns.Pairwise fun a b => ¬ Text.Alike a b) →
    ∀ other : Row, (other.columns.zip other.values).Perm (lists.columns.zip lists.values) →
      ∀ column, other.get? column = row.get? column ∧
        other.contains column = row.contains column ∧
          ∀ t : FieldType, other.read t column = row.read t column

theorem zip_columns_values (row : Row) : row.columns.zip row.values = row.cells :=
  (List.zip_of_prod rfl rfl).symm

theorem Has.reads (has : row.Has lists) : row.Reads lists where
  columns := has.1
  values := has.2
  even := has.even
  get? := has.get?
  first := by
    intro column v
    rw [has.get?, Lists.get?_eq_some_iff]
  contains := by
    intro column
    rw [contains_iff, has.1]
    exact exists_congr fun label =>
      and_congr_right fun _ => Text.sameIgnoringCase_iff_alike label column
  kept := fun _ known added v => get?_push_of_contains known added v
  added := by
    intro added v column
    rw [contains_push, Text.sameIgnoringCase_iff_alike]
  rearranged := by
    intro distinct other perm column
    rw [← has.1, ← distinct_iff] at distinct
    rw [← has.1, ← has.2, zip_columns_values, zip_columns_values] at perm
    have same := distinct.get?_of_perm perm column
    refine ⟨same, by rw [Row.contains, same, Row.contains], fun t => by rw [read, same, read]⟩

/-- A row that is made of two lists and gets further columns has the labels and the values of two
lists of one length. The first label that is alike says what is read under a name. A further column
hides nothing, and where no label stands twice the order of the columns makes no difference. -/
theorem made_reads (columns : List String) (values : List Value) (added : List (String × Value)) :
    (made columns values added).Reads (.made columns values added) :=
  (has_made columns values added).reads

/-- A label without a value is dropped, and another one takes its place behind the list. -/
theorem made_reads_dropped :
    let row := made ["ID", "name"] [.bool true] [("Name", .null)]
    row.get? "id" = some (.bool true) ∧ row.contains "NAME" = true ∧
      (⟨[("Name", .null), ("ID", .bool true)]⟩ : Row).get? "id" = row.get? "id" := by
  intro row
  have reads := made_reads ["ID", "name"] [.bool true] [("Name", .null)]
  have distinct : ["ID", "Name"].Pairwise fun a b => ¬ Text.Alike a b := by
    rw [List.pairwise_pair, ← Text.sameIgnoringCase_iff_alike]
    decide
  have turned : [("Name", Value.null), ("ID", .bool true)].Perm
      [("ID", .bool true), ("Name", .null)] := .swap _ _ _
  refine ⟨reads.get? "id", (reads.contains "NAME").mpr ⟨"Name", .tail _ (.head _), ?_⟩,
    (reads.rearranged distinct ⟨[("Name", .null), ("ID", .bool true)]⟩ turned "id").1⟩
  rw [← Text.sameIgnoringCase_iff_alike]
  decide

end Row

end SqlRecords
