import SqlRecords.Declaration.Outline
import SqlRecords.Proofs.Declaration.Fields

/-!
# Names in statements

A declaration names its table, its key and its columns, and these names stand in statements as
they are. The items let only identifiers through, which hold nothing that ends a name there or
that reads as a placeholder: `declared_names`.
-/

namespace SqlRecords

open Template (NameChar)

/-! ### Texts that stay names -/

/-- Quotes, blanks, `?`, `:` and `-`. -/
def Disruptive (c : Char) : Prop :=
  c ∈ ['\x27', '\x22', '\x60', '?', ':', '-'] ∨ Text.isBlank c = true

def Harmless (s : String) : Prop := ∀ c ∈ s.toList, ¬ Disruptive c

theorem not_disruptive_of_nameChar {c : Char} (char : NameChar c) : ¬ Disruptive c := by
  rintro (mark | blank)
  · simp only [List.mem_cons, List.not_mem_nil, or_false] at mark
    rcases mark with rfl | rfl | rfl | rfl | rfl | rfl
    all_goals exact absurd char (by decide)
  · obtain ⟨low, high⟩ := nameChar_bounds char
    rw [Text.isBlank_of_graphic (by omega) (by omega)] at blank
    cases blank

theorem Identifier.harmless {name : String} (identifier : Identifier name) : Harmless name :=
  fun c member => not_disruptive_of_nameChar (identifier.chars c member)

theorem TableName.harmless {name : String} (table : TableName name) : Harmless name := by
  obtain ⟨parts, -, rfl, identifiers⟩ := table
  intro c member disruptive
  refine Text.notMem_intercalate ?_ ?_ member
  · intro dot
    rw [List.mem_singleton.mp dot] at disruptive
    rcases disruptive with mark | blank
    · exact absurd mark (by decide)
    · cases blank
  · exact fun part present inside => (identifiers part present).harmless c inside disruptive

/-! ### Tables and keys -/

structure TypeMarks.WellNamed (m : TypeMarks) : Prop where
  table : ∀ name ∈ m.table, TableName name
  key : ∀ name ∈ m.key, Identifier name

theorem TypeMarks.take_wellNamed {m m' : TypeMarks} {i : Item} (named : m.WellNamed)
    (taken : m.take i = .ok m') : m'.WellNamed := by
  obtain ⟨key, value⟩ := i
  by_cases table : key = "table"
  · subst table
    obtain ⟨tableName, rfl⟩ := take_table_ok_iff.mp taken
    refine ⟨fun name present => ?_, named.key⟩
    obtain rfl := Option.some.inj present
    exact tableName
  · by_cases primary : key = "primary_key"
    · subst primary
      obtain ⟨names, -, -, identifiers, rfl⟩ := take_key_ok_iff.mp taken
      exact ⟨named.table, identifiers⟩
    · rw [TypeMarks.take, if_neg table, if_neg primary] at taken
      cases taken

theorem readType_wellNamed {annotations : List Annotation} {m : TypeMarks}
    (read : readType annotations = .ok m) : m.WellNamed :=
  foldlM_preserves (fun _ _ _ => TypeMarks.take_wellNamed) ⟨by simp, by simp⟩ read

/-! ### Declarations -/

theorem Declaration.read_ok {source : DeclarationSource} {d : Declaration}
    (read : Declaration.read source = .ok d) :
    ∃ m fields, readType source.annotations = .ok m ∧ d.table = m.table ∧ d.key = m.key ∧
      source.fields = some fields ∧
        List.Forall₂ (fun f r => readField f = .ok r) fields d.fields := by
  unfold Declaration.read at read
  obtain ⟨m, type, read⟩ := bind_ok read
  cases given : source.fields with
  | none =>
    rw [given] at read
    cases read
  | some fields =>
    rw [given] at read
    obtain ⟨made, each, read⟩ := bind_ok read
    obtain rfl := Except.ok.inj read
    exact ⟨m, fields, type, rfl, rfl, rfl, forall₂_of_mapM each⟩

/-- A column is an identifier if an item names it, and the name of its field otherwise. -/
theorem column_of_readField {f : FieldSource} {r : DeclaredField} (read : readField f = .ok r) :
    Identifier r.column ∨
      (∀ i ∈ itemsOf f.annotations, i.key ≠ "name") ∧ r.column = plainName f.name := by
  obtain ⟨sound, rfl⟩ := readField_ok_iff.mp read
  cases last : lastValue "name" (itemsOf f.annotations) with
  | none =>
    have unnamed : ∀ i ∈ itemsOf f.annotations, i.key ≠ "name" := fun i member name =>
      absurd (lastValue_isSome_iff.mpr ⟨i, member, name⟩) (by simp [last])
    right
    rw [fieldOf, last]
    exact ⟨unnamed, rfl⟩
  | some value =>
    obtain ⟨i, member, name, rfl⟩ := exists_of_lastValue last
    left
    rw [fieldOf, last]
    exact sound.named i member name

section Outline

variable {d : Declaration} {s : String}

theorem text_mem_map_text {names : List String} :
    OutlineStep.text s ∈ names.map OutlineStep.text ↔ s ∈ names := by
  simp

theorem text_notMem_flattenedTypes : OutlineStep.text s ∉ d.flattenedTypes := by
  simp [Declaration.flattenedTypes]

theorem table_of_outline (step : .text s ∈ d.outline.table) : s ∈ d.table :=
  Option.mem_toList.mp (text_mem_map_text.mp step)

theorem key_of_outline (step : .text s ∈ d.outline.key) : s ∈ d.key := by
  simp only [Declaration.outline] at step
  split at step
  · exact absurd step text_notMem_flattenedTypes
  · exact text_mem_map_text.mp step

theorem values_of_outline (step : .text s ∈ d.outline.values) : ∃ r ∈ d.fields, r.column = s := by
  rcases List.mem_append.mp step with own | flattened
  · obtain ⟨r, member, same⟩ := List.mem_map.mp own
    have present := List.mem_of_mem_filter (List.mem_of_mem_filter member)
    exact ⟨r, present, OutlineStep.text.inj same⟩
  · exact absurd flattened text_notMem_flattenedTypes

end Outline

/-- The names that a declaration gives are accepted if they are identifiers, and stay names in the
statements. -/
theorem declared_names :
    (∀ (m m' : FieldMarks) (name : String), m.take ⟨"name", name⟩ = .ok m' ↔
      Identifier name ∧ m' = { m with column := some name }) ∧
    (∀ (m m' : TypeMarks) (name : String), m.take ⟨"table", name⟩ = .ok m' ↔
      TableName name ∧ m' = { m with table := some name }) ∧
    (∀ (m m' : TypeMarks) (text : String), m.take ⟨"primary_key", text⟩ = .ok m' ↔
      ∃ names, KeyList text names ∧ names ≠ [] ∧ (∀ name ∈ names, Identifier name) ∧
        m' = { m with key := names }) ∧
    ∀ (source : DeclarationSource) (d : Declaration), Declaration.read source = .ok d →
      (∀ s, .text s ∈ d.outline.table ∨ .text s ∈ d.outline.key → Harmless s) ∧
      ∃ fields, source.fields = some fields ∧
        List.Forall₂ (fun f r =>
          (∃ i ∈ itemsOf f.annotations, i.key = "name") → Harmless r.column) fields d.fields ∧
        ∀ s, .text s ∈ d.outline.values → Harmless s ∨
          ∃ f ∈ fields, (∀ i ∈ itemsOf f.annotations, i.key ≠ "name") ∧ s = plainName f.name := by
  refine ⟨fun _ _ _ => take_name_ok_iff, fun _ _ _ => take_table_ok_iff,
    fun _ _ _ => take_key_ok_iff, fun source d read => ?_⟩
  obtain ⟨m, fields, type, table, key, given, each⟩ := Declaration.read_ok read
  have named := readType_wellNamed type
  refine ⟨?_, fields, given, each.imp fun f r made => ?_, fun s step => ?_⟩
  · rintro s (step | step)
    · exact (named.table s (table ▸ table_of_outline step)).harmless
    · exact (named.key s (key ▸ key_of_outline step)).harmless
  · rintro ⟨i, member, name⟩
    rcases column_of_readField made with identifier | ⟨unnamed, -⟩
    · exact identifier.harmless
    · exact absurd name (unnamed i member)
  · obtain ⟨r, present, rfl⟩ := values_of_outline step
    obtain ⟨f, member, made⟩ := exists_left_of_forall₂ each present
    rcases column_of_readField made with identifier | ⟨unnamed, plain⟩
    · exact .inl identifier.harmless
    · exact .inr ⟨f, member, unnamed, plain⟩

def orders : DeclarationSource where
  annotations := [⟨"mapper", [⟨"table", "shop.orders"⟩, ⟨"primary_key", " tenant_id,, id"⟩]⟩]
  fields := some
    [⟨"id", "i64", []⟩, ⟨"tenant", "i64", [⟨"mapper", [⟨"name", "tenant_id"⟩]⟩]⟩]

theorem declared_names_orders :
    ∃ d, Declaration.read orders = .ok d ∧ d.outline.table = [.text "shop.orders"] ∧
      d.outline.key = [.text "tenant_id", .text "id"] ∧
      Harmless "shop.orders" ∧ Harmless "tenant_id" ∧ Harmless "id" := by
  have read : Declaration.read orders =
      .ok ⟨some "shop.orders", ["tenant_id", "id"],
        [⟨"id", "i64", "id", none, false, false⟩,
          ⟨"tenant", "i64", "tenant_id", none, false, false⟩]⟩ := by
    rfl
  have ⟨harmless, _⟩ := declared_names.2.2.2 orders _ read
  exact ⟨_, read, rfl, rfl, harmless _ (by simp [Declaration.outline]),
    harmless _ (by simp [Declaration.outline]), harmless _ (by simp [Declaration.outline])⟩

end SqlRecords
