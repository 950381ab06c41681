import SqlRecords.Proofs.Declaration.Identifier

/-!
# Items of fields

What the items of a field come to. One more item adds its own mark to those that stand, so the
items of a whole field come to `FieldMarks.marked`, whatever annotations they stand in.
-/

namespace SqlRecords

/-! ### Items in annotations -/

/-- The items stand in the annotations named `mapper`, with other annotations in between. -/
inductive Spreads : List Annotation → List Item → Prop where
  | done : Spreads [] []
  | foreign {a : Annotation} {annotations : List Annotation} {items : List Item}
      (other : a.name ≠ "mapper") (later : Spreads annotations items) :
      Spreads (a :: annotations) items
  | group {group more : List Item} {annotations : List Annotation}
      (later : Spreads annotations more) :
      Spreads (⟨"mapper", group⟩ :: annotations) (group ++ more)

theorem itemsOf_of_spreads {annotations : List Annotation} {items : List Item}
    (spread : Spreads annotations items) : itemsOf annotations = items := by
  unfold itemsOf
  induction spread with
  | done => rfl
  | foreign other later ih => rw [List.filter_cons_of_neg (by simpa using other), ih]
  | group later ih => rw [List.filter_cons_of_pos (by simp), List.flatMap_cons, ih]

/-! ### The marks that items come to -/

/-- The value of the last item with the key. -/
def lastValue (key : String) (items : List Item) : Option String :=
  (items.filter fun i => i.key = key).getLast?.map Item.value

theorem lastValue_append (key : String) (items more : List Item) :
    lastValue key (items ++ more) = (lastValue key more).or (lastValue key items) := by
  rw [lastValue, List.filter_append, List.getLast?_append, Option.map_or]
  rfl

theorem lastValue_isSome_iff {key : String} {items : List Item} :
    (lastValue key items).isSome ↔ ∃ i ∈ items, i.key = key := by
  simp [lastValue]

theorem exists_of_lastValue {key value : String} {items : List Item}
    (last : lastValue key items = some value) : ∃ i ∈ items, i.key = key ∧ i.value = value := by
  obtain ⟨i, found, rfl⟩ := Option.map_eq_some_iff.mp last
  have member := List.mem_of_getLast? found
  rw [List.mem_filter, decide_eq_true_iff] at member
  exact ⟨i, member.1, member.2, rfl⟩

namespace FieldMarks

/-- The marks with those of the items added. -/
def marked (m : FieldMarks) (items : List Item) : FieldMarks where
  column := (lastValue "name" items).or m.column
  converter := (lastValue "converter" items).or m.converter
  ignored := m.ignored || items.any fun i => i.key = "ignore"
  flattened := m.flattened || items.any fun i => i.key = "flatten"

theorem marked_append (m : FieldMarks) (items more : List Item) :
    m.marked (items ++ more) = (m.marked items).marked more := by
  simp only [marked, lastValue_append, Option.or_assoc, List.any_append, Bool.or_assoc]

theorem marked_default (items : List Item) :
    ({} : FieldMarks).marked items = ⟨lastValue "name" items, lastValue "converter" items,
      items.any fun i => i.key = "ignore", items.any fun i => i.key = "flatten"⟩ := by
  simp only [marked, Option.or_none, Bool.false_or]

/-- The item is of a known kind, and names a column only by an identifier. -/
structure Accepts (i : Item) : Prop where
  known : i.key ∈ ["name", "converter", "ignore", "flatten"]
  named : i.key = "name" → Identifier i.value

theorem take_ok_iff {m m' : FieldMarks} {i : Item} :
    m.take i = .ok m' ↔ Accepts i ∧ m' = m.marked [i] := by
  obtain ⟨key, value⟩ := i
  by_cases name : key = "name"
  · subst name
    rw [take_name_ok_iff]
    have accepts : Accepts ⟨"name", value⟩ ↔ Identifier value :=
      ⟨fun accepts => accepts.named rfl, fun identifier => ⟨by simp, fun _ => identifier⟩⟩
    rw [accepts]
    simp [marked, lastValue]
  · have accepts : Accepts ⟨key, value⟩ ↔ key = "converter" ∨ key = "ignore" ∨ key = "flatten" := by
      constructor
      · intro accepts
        simpa [name] using accepts.known
      · exact fun kind => ⟨by simp [kind], fun same => absurd same name⟩
    rw [accepts, take, if_neg name]
    split_ifs with converter ignore flatten
    · subst converter
      simp [marked, lastValue, eq_comm]
    · subst ignore
      simp [marked, lastValue, eq_comm]
    · subst flatten
      simp [marked, lastValue, eq_comm]
    · simp [converter, ignore, flatten]

/-- Taking the items in turn gives their marks, unless one of them is refused. -/
theorem foldlM_take_ok_iff {m m' : FieldMarks} {items : List Item} :
    items.foldlM take m = .ok m' ↔ (∀ i ∈ items, Accepts i) ∧ m' = m.marked items := by
  -- Each item is taken with the marks of those before it.
  induction items generalizing m with
  | nil => simp [marked, lastValue, pure, Except.pure, eq_comm]
  | cons i rest ih =>
    rw [List.foldlM_cons, List.forall_mem_cons, ← List.singleton_append, marked_append]
    constructor
    · intro made
      obtain ⟨next, taken, made⟩ := bind_ok made
      obtain ⟨here, rfl⟩ := take_ok_iff.mp taken
      obtain ⟨later, rfl⟩ := ih.mp made
      exact ⟨⟨here, later⟩, rfl⟩
    · rintro ⟨⟨here, later⟩, rfl⟩
      rw [take_ok_iff.mpr ⟨here, rfl⟩]
      exact ih.mpr ⟨later, rfl⟩

end FieldMarks

/-! ### Names without their mark -/

/-- The name without the mark `r#` of names that are keywords. -/
def Unmarks (name plain : String) : Prop :=
  name = "r#" ++ plain ∨ name = plain ∧ ∀ rest, name ≠ "r#" ++ rest

theorem marked_toList (plain : String) : ("r#" ++ plain).toList = 'r' :: '#' :: plain.toList := by
  rw [String.toList_append]
  rfl

theorem plainName_of_unmarks {name plain : String} (unmarked : Unmarks name plain) :
    plainName name = plain := by
  unfold plainName
  rcases unmarked with rfl | ⟨rfl, other⟩
  · rw [marked_toList]
    exact String.ofList_toList
  · split
    · rename_i rest spelled
      refine absurd ?_ (other (String.ofList rest))
      rw [← String.toList_inj, marked_toList, spelled, String.toList_ofList]
    · rfl

/-! ### Fields -/

/-- The items that a field may have: known ones, named by identifiers, and `flatten` not beside
others. -/
structure SoundItems (items : List Item) : Prop where
  known : ∀ i ∈ items, i.key ∈ ["name", "converter", "ignore", "flatten"]
  named : ∀ i ∈ items, i.key = "name" → Identifier i.value
  apart : (∃ i ∈ items, i.key = "flatten") → ∀ i ∈ items, i.key = "flatten"

/-- The items with one key are the same in the same order, for every key. -/
def Rearranges (items items' : List Item) : Prop :=
  ∀ key, (items.filter fun i => i.key = key) = items'.filter fun i => i.key = key

def fieldOf (plain type : String) (items : List Item) : DeclaredField where
  name := plain
  type := type
  column := (lastValue "name" items).getD plain
  converter := lastValue "converter" items
  ignored := items.any fun i => i.key = "ignore"
  flattened := items.any fun i => i.key = "flatten"

theorem apart_iff_not_beside {items : List Item}
    (known : ∀ i ∈ items, i.key ∈ ["name", "converter", "ignore", "flatten"]) :
    ((∃ i ∈ items, i.key = "flatten") → ∀ i ∈ items, i.key = "flatten") ↔
      ¬ ((items.any fun i => i.key = "flatten") && ((lastValue "name" items).isSome ||
        (lastValue "converter" items).isSome || items.any fun i => i.key = "ignore")) = true := by
  simp only [Bool.and_eq_true, Bool.or_eq_true, not_and, not_or, lastValue_isSome_iff,
    List.any_eq_true, decide_eq_true_eq]
  refine imp_congr_right fun _ => ?_
  constructor
  · intro only
    have absent (key : String) (different : key ≠ "flatten") : ¬ ∃ i ∈ items, i.key = key := by
      rintro ⟨i, member, rfl⟩
      exact different (only i member)
    exact ⟨⟨absent "name" (by decide), absent "converter" (by decide)⟩, absent "ignore" (by decide)⟩
  -- The other known kinds are excluded, so that `flatten` is left.
  · rintro ⟨⟨name, converter⟩, ignore⟩ i member
    have kind := known i member
    simp only [List.mem_cons, List.not_mem_nil, or_false] at kind
    rcases kind with same | same | same | same
    · exact absurd ⟨i, member, same⟩ name
    · exact absurd ⟨i, member, same⟩ converter
    · exact absurd ⟨i, member, same⟩ ignore
    · exact same

theorem readField_ok_iff {f : FieldSource} {r : DeclaredField} :
    readField f = .ok r ↔
      SoundItems (itemsOf f.annotations) ∧
        r = fieldOf (plainName f.name) f.type (itemsOf f.annotations) := by
  unfold readField
  generalize itemsOf f.annotations = items
  constructor
  · intro made
    obtain ⟨m, taken, made⟩ := bind_ok made
    obtain ⟨accepted, rfl⟩ := FieldMarks.foldlM_take_ok_iff.mp taken
    have known := fun i member => (accepted i member).known
    rw [FieldMarks.marked_default] at made
    split at made
    · cases made
    · rename_i beside
      exact ⟨⟨known, fun i member => (accepted i member).named,
        (apart_iff_not_beside known).mpr beside⟩, (Except.ok.inj made).symm⟩
  · rintro ⟨sound, rfl⟩
    have accepted : ∀ i ∈ items, FieldMarks.Accepts i := fun i member =>
      ⟨sound.known i member, sound.named i member⟩
    rw [FieldMarks.foldlM_take_ok_iff.mpr ⟨accepted, rfl⟩, FieldMarks.marked_default]
    have beside := (apart_iff_not_beside sound.known).mp sound.apart
    exact if_neg beside

/-! ### Rearranged items -/

section Rearranged

variable {items items' : List Item} (rearranged : Rearranges items items')

include rearranged

theorem Rearranges.symm : Rearranges items' items := fun key => (rearranged key).symm

theorem Rearranges.mem_iff (i : Item) : i ∈ items' ↔ i ∈ items := by
  have same : i ∈ (items.filter fun j => j.key = i.key) ↔
      i ∈ items'.filter fun j => j.key = i.key := by rw [rearranged i.key]
  simpa using same.symm

theorem SoundItems.of_rearranges (sound : SoundItems items) : SoundItems items' := by
  have mem := rearranged.mem_iff
  refine ⟨fun i member => sound.known i ((mem i).mp member),
    fun i member => sound.named i ((mem i).mp member), ?_⟩
  rintro ⟨i, member, flatten⟩ j other
  exact sound.apart ⟨i, (mem i).mp member, flatten⟩ j ((mem j).mp other)

theorem fieldOf_rearranges (plain type : String) :
    fieldOf plain type items' = fieldOf plain type items := by
  have last (key : String) : lastValue key items' = lastValue key items := by
    rw [lastValue, lastValue, rearranged key]
  have present (key : String) :
      (items'.any fun i => i.key = key) = items.any fun i => i.key = key := by
    rw [Bool.eq_iff_iff]
    simp only [List.any_eq_true, rearranged.mem_iff]
  simp only [fieldOf, last, present]

end Rearranged

/-- What the annotations of a field come to is settled by its items, however they are spread: the
last name and the last converter count, and a mark counts wherever it stands. Fields whose items
are the same kind by kind are read alike. -/
theorem readField_of_items {f : FieldSource} {items : List Item} {plain : String}
    (spread : Spreads f.annotations items) (unmarked : Unmarks f.name plain) :
    (∀ r, readField f = .ok r ↔
      SoundItems items ∧
        r = { name := plain
              type := f.type
              column := (lastValue "name" items).getD plain
              converter := lastValue "converter" items
              ignored := items.any fun i => i.key = "ignore"
              flattened := items.any fun i => i.key = "flatten" }) ∧
      ∀ (g : FieldSource) (items' : List Item), Spreads g.annotations items' →
        Rearranges items items' → g.name = f.name → g.type = f.type →
          ∀ r, readField g = .ok r ↔ readField f = .ok r := by
  have read (r : DeclaredField) :
      readField f = .ok r ↔ SoundItems items ∧ r = fieldOf plain f.type items := by
    rw [readField_ok_iff, itemsOf_of_spreads spread, plainName_of_unmarks unmarked]
  refine ⟨read, fun g items' spread' rearranged name type r => ?_⟩
  rw [readField_ok_iff, itemsOf_of_spreads spread', name, plainName_of_unmarks unmarked, type,
    fieldOf_rearranges rearranged, read]
  refine and_congr_left fun _ => ?_
  exact ⟨fun sound => sound.of_rearranges rearranged.symm,
    fun sound => sound.of_rearranges rearranged⟩

def scatteredItems : List Item :=
  [⟨"name", "kind"⟩, ⟨"converter", "Text"⟩, ⟨"name", "type_name"⟩, ⟨"ignore", ""⟩]

/-- A field with its items in three annotations, and another annotation in between. -/
def scattered : FieldSource where
  name := "r#type"
  type := "String"
  annotations :=
    [⟨"mapper", [⟨"name", "kind"⟩]⟩, ⟨"serde", [⟨"rename", "k"⟩]⟩,
      ⟨"mapper", [⟨"converter", "Text"⟩, ⟨"name", "type_name"⟩]⟩, ⟨"mapper", [⟨"ignore", ""⟩]⟩]

/-- The field with its items in one annotation, in another order. -/
def gathered : FieldSource where
  name := "r#type"
  type := "String"
  annotations :=
    [⟨"mapper", [⟨"ignore", ""⟩, ⟨"name", "kind"⟩, ⟨"name", "type_name"⟩, ⟨"converter", "Text"⟩]⟩]

theorem scatteredItems_sound : SoundItems scatteredItems := by
  refine ⟨by decide, ?_, by simp [scatteredItems]⟩
  simp only [← nameFault?_eq_none_iff]
  decide

theorem scatteredItems_rearranges :
    Rearranges scatteredItems
      [⟨"ignore", ""⟩, ⟨"name", "kind"⟩, ⟨"name", "type_name"⟩, ⟨"converter", "Text"⟩] := by
  intro key
  by_cases name : key = "name"
  · subst name
    rfl
  by_cases converter : key = "converter"
  · subst converter
    rfl
  by_cases ignore : key = "ignore"
  · subst ignore
    rfl
  simp [scatteredItems, Ne.symm name, Ne.symm converter, Ne.symm ignore]

theorem readField_of_items_scattered :
    (Spreads scattered.annotations scatteredItems ∧ Unmarks scattered.name "type") ∧
      readField scattered = .ok ⟨"type", "String", "type_name", some "Text", true, false⟩ ∧
      readField gathered = .ok ⟨"type", "String", "type_name", some "Text", true, false⟩ := by
  have spread : Spreads scattered.annotations scatteredItems :=
    .group (.foreign (by decide) (.group (.group .done)))
  have unmarked : Unmarks scattered.name "type" := .inl rfl
  have ⟨read, alike⟩ := readField_of_items spread unmarked
  have first := (read _).mpr ⟨scatteredItems_sound, rfl⟩
  have second :=
    (alike gathered _ (.group .done) scatteredItems_rearranges rfl rfl _).mpr first
  exact ⟨⟨spread, unmarked⟩, first, second⟩

end SqlRecords
