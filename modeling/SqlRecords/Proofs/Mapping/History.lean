import Mathlib.Data.List.Nodup
import SqlRecords.Proofs.Mapping.Walk

/-!
# Histories of a registry

Whatever a registry was asked before, what it remembers under an id is what would be made anew.
`Registry.mapper_reads` concludes that the mapper it hands out reads rows as the plain procedure
does.
-/

namespace SqlRecords

namespace Memo

variable {κ α β : Type} [DecidableEq κ]

/-- What is remembered under the key of an item is the item's value. -/
def Holds {β : Type _} (m : Memo κ α) (items : List β) (key : β → κ) (value : β → α) : Prop :=
  ∀ b ∈ items, ∀ a, m.find? (key b) = some a → a = value b

theorem holds_clear {β : Type _} (m : Memo κ α) (items : List β) (key : β → κ) (value : β → α) :
    m.clear.Holds items key value := fun _ _ _ => nofun

section Insert

variable {β : Type _} {m : Memo κ α} {items : List β} {key : β → κ} {value : β → α} {b : β}

theorem Holds.fst_getOrInsert (holds : m.Holds items key value) (member : b ∈ items) :
    (m.getOrInsert (key b) (value b)).1 = value b := by
  rw [getOrInsert_fst]
  cases found : m.find? (key b) with
  | none => rfl
  | some a => exact holds b member a found

theorem Holds.getOrInsert (holds : m.Holds items key value)
    (apart : ∀ c ∈ items, key b = key c → b = c) :
    (m.getOrInsert (key b) (value b)).2.Holds items key value := by
  intro c member a found
  rw [find?_getOrInsert, Option.or_eq_some_iff] at found
  obtain before | ⟨-, added⟩ := found
  · exact holds c member a before
  · split at added
    case isTrue same =>
      obtain rfl := apart c member same
      exact (Option.some.inj added).symm
    case isFalse => cases added

end Insert

end Memo

/-- The converters of the fields. -/
def RecordType.converters (T : RecordType) : List Converter := T.fields.filterMap Field.converter

namespace Registry

/-- What a registry may be asked, or told. -/
inductive Use where
  | mapper (T : RecordType)
  | fieldTable (T : RecordType)
  | converter (c : Converter)
  | clear

namespace Use

/-- The types that are named. -/
def types : Use → List RecordType
  | mapper T | fieldTable T => [T]
  | converter _ | clear => []

/-- The converters that are named, also those of the fields of a type. -/
def converters : Use → List Converter
  | mapper T | fieldTable T => T.converters
  | converter c => [c]
  | clear => []

end Use

/-- The registry after one use. -/
def step (r : Registry) : Use → Registry
  | .mapper T => (r.mapper T).2
  | .fieldTable T => (r.fieldTable T).2
  | .converter c => (r.converter c).2
  | .clear => r.clear

/-- The registry after a history. -/
def run : Registry → List Use → Registry
  | r, [] => r
  | r, use :: rest => run (r.step use) rest

/-- Ids tell types and converters apart. -/
structure Apart (types : List RecordType) (converters : List Converter) : Prop where
  types : ∀ A ∈ types, ∀ B ∈ types, A.id = B.id → A = B
  converters : ∀ c ∈ converters, ∀ c' ∈ converters, c.id = c'.id → c = c'

/-- Ids tell apart what a history names. -/
def Distinguished (uses : List Use) : Prop :=
  Apart (uses.flatMap Use.types) (uses.flatMap Use.converters)

/-- What is remembered of the types and the converters is what would be made anew. -/
structure Sound (types : List RecordType) (converters : List Converter) (r : Registry) : Prop where
  tables : r.tables.Holds types RecordType.id FieldTable.ofType
  converters : r.converters.Holds converters Converter.id id

section Sound

variable {types : List RecordType} {converters : List Converter} {r : Registry} {T : RecordType}

theorem sound_empty : Sound types converters {} := ⟨fun _ _ _ => nofun, fun _ _ _ => nofun⟩

theorem Sound.fieldTable (sound : r.Sound types converters) (apart : Apart types converters)
    (member : T ∈ types) :
    (r.fieldTable T).1 = .ofType T ∧ (r.fieldTable T).2.Sound types converters :=
  ⟨sound.tables.fst_getOrInsert member,
    sound.tables.getOrInsert fun B other => apart.types T member B other, sound.converters⟩

theorem Sound.converter (sound : r.Sound types converters) (apart : Apart types converters)
    {c : Converter} (member : c ∈ converters) : (r.converter c).2.Sound types converters :=
  ⟨sound.tables,
    sound.converters.getOrInsert fun c' other => apart.converters c member c' other⟩

theorem Sound.resolve (sound : r.Sound types converters) (apart : Apart types converters)
    {fs : List Field} (known : ∀ f ∈ fs, ∀ c, f.converter = some c → c ∈ converters) :
    (r.resolve fs).2.Sound types converters := by
  induction fs generalizing r with
  | nil => exact sound
  | cons f rest ih =>
    have later : ∀ g ∈ rest, ∀ c, g.converter = some c → c ∈ converters :=
      fun g member => known g (List.mem_cons_of_mem f member)
    rw [Registry.resolve]
    cases held : f.converter with
    | none => exact ih sound later
    | some c =>
      have member := known f List.mem_cons_self c held
      exact ih (sound.converter apart member) later

theorem mem_converters_iff {c : Converter} :
    c ∈ T.converters ↔ ∃ f ∈ T.fields, f.converter = some c := List.mem_filterMap

theorem Sound.mapper (sound : r.Sound types converters) (apart : Apart types converters)
    (member : T ∈ types) (known : T.converters ⊆ converters) :
    (r.mapper T).2.Sound types converters := by
  obtain ⟨table, after⟩ := sound.fieldTable apart member
  change ((r.fieldTable T).2.resolve (r.fieldTable T).1.entries).2.Sound types converters
  rw [table]
  refine after.resolve apart fun f entry c held => known (mem_converters_iff.mpr ⟨f, ?_, held⟩)
  exact (FieldTable.mem_of_mem_firstsFrom entry).1

/-- One use keeps a registry sound. -/
theorem step_sound (sound : r.Sound types converters) (apart : Apart types converters) {use : Use}
    (named : use.types ⊆ types) (known : use.converters ⊆ converters) :
    (r.step use).Sound types converters := by
  cases use with
  | mapper T => exact sound.mapper apart (named List.mem_cons_self) known
  | fieldTable T => exact (sound.fieldTable apart (named List.mem_cons_self)).2
  | converter c => exact sound.converter apart (known List.mem_cons_self)
  | clear => exact ⟨Memo.holds_clear _ _ _ _, Memo.holds_clear _ _ _ _⟩

/-- A history keeps a registry sound. -/
theorem run_sound (sound : r.Sound types converters) (apart : Apart types converters)
    {uses : List Use} (named : uses.flatMap Use.types ⊆ types)
    (known : uses.flatMap Use.converters ⊆ converters) : (r.run uses).Sound types converters := by
  induction uses generalizing r with
  | nil => exact sound
  | cons use rest ih =>
    rw [List.flatMap_cons, List.append_subset] at named known
    exact ih (step_sound sound apart named.1 known.1) named.2 known.2

theorem Sound.truthful (sound : r.Sound types converters) (apart : Apart types converters)
    (member : T ∈ types) (known : T.converters ⊆ converters) : r.Truthful T := by
  have owned : ∀ f ∈ T.fields, ∀ c, f.converter = some c → c ∈ converters :=
    fun f field c held => known (mem_converters_iff.mpr ⟨f, field, held⟩)
  refine ⟨sound.tables T member, ?_, ?_⟩
  · intro f field c held c' found
    exact sound.converters c (owned f field c held) c' found
  · intro f field c held g field' c' held' same
    exact apart.converters c (owned f field c held) c' (owned g field' c' held') same

/-- A fresh registry remembers nothing wrong of a type after any history. -/
theorem truthful_run {uses : List Use} (apart : Distinguished (uses ++ [.mapper T])) :
    (run {} uses).Truthful T := by
  have named : uses.flatMap Use.types ⊆ (uses ++ [Use.mapper T]).flatMap Use.types := by
    rw [List.flatMap_append]
    exact List.subset_append_left _ _
  have known : uses.flatMap Use.converters ⊆ (uses ++ [Use.mapper T]).flatMap Use.converters := by
    rw [List.flatMap_append]
    exact List.subset_append_left _ _
  have last : Use.mapper T ∈ uses ++ [.mapper T] := List.mem_append_right _ List.mem_cons_self
  refine (run_sound sound_empty apart named known).truthful apart ?_ ?_
  · exact List.mem_flatMap.mpr ⟨_, last, List.mem_cons_self⟩
  · intro c member
    exact List.mem_flatMap.mpr ⟨_, last, member⟩

end Sound

/-- The mapper of a type that a registry hands out after any history reads each row as the plain
procedure does, record or error. Rows are read in order up to the first error. -/
theorem mapper_reads (T : RecordType) (uses : List Use)
    (apart : Distinguished (uses ++ [.mapper T])) :
    (∀ row outcome,
      ((run {} uses).mapper T).1.mapRow T row = outcome ↔ T.Reads row outcome) ∧
    (∀ rows records, ((run {} uses).mapper T).1.mapRows T rows = .ok records ↔
      List.Forall₂ (fun row r => T.Reads row (.ok r)) rows records) ∧
    (∀ rows e, ((run {} uses).mapper T).1.mapRows T rows = .error e ↔
      ∃ before row after, rows = before ++ row :: after ∧
        (∀ b ∈ before, ∃ r, T.Reads b (.ok r)) ∧ T.Reads row (.error e)) := by
  rw [mapper_eq (truthful_run apart)]
  refine ⟨fun row outcome => Mapper.mapRow_eq_iff, fun rows records => ?_, fun rows e => ?_⟩
  · constructor
    · intro made
      exact (forall₂_of_mapM made).imp fun row r => Mapper.mapRow_eq_iff.mp
    · intro each
      exact mapM_of_forall₂ (each.imp fun row r => Mapper.mapRow_eq_iff.mpr)
  · refine mapM_error_iff.trans ?_
    simp only [Mapper.mapRow_eq_iff]

theorem distinguished_of_nodup {uses : List Use} (types : List RecordType)
    (converters : List Converter) (named : uses.flatMap Use.types ⊆ types)
    (known : uses.flatMap Use.converters ⊆ converters) (ids : (types.map RecordType.id).Nodup)
    (converterIds : (converters.map Converter.id).Nodup) : Distinguished uses where
  types _ left _ right same := List.inj_on_of_nodup_map ids (named left) (named right) same
  converters _ left _ right same :=
    List.inj_on_of_nodup_map converterIds (known left) (known right) same

/-- Before `Sample.readOnly` is mapped, other types share a converter with each other, and the
registry is cleared in between. -/
def readOnlyHistory : List Use :=
  [.mapper Sample.user.toRecordType, .mapper Sample.readOnly, .converter .flag, .clear,
    .fieldTable Sample.strict, .mapper Sample.member.toRecordType]

theorem mapper_reads_readOnly :
    Distinguished (readOnlyHistory ++ [.mapper Sample.readOnly]) ∧
    Sample.readOnly.Reads ⟨[("OPEN", .bool true), ("open2", .null)]⟩ (.ok ⟨1, by decide⟩) ∧
    Sample.readOnly.Reads ⟨[("open", .bool true), ("Locked", .null)]⟩
      (.error (.noAccessor "ReadOnly" "locked")) := by
  have apart : Distinguished (readOnlyHistory ++ [.mapper Sample.readOnly]) := by
    refine distinguished_of_nodup
      [Sample.user.toRecordType, Sample.readOnly, Sample.strict, Sample.member.toRecordType]
      [.flag, .unchanged, Sample.failing] ?_ ?_ (by decide) (by decide)
    · simp [readOnlyHistory, Use.types]
    · simp [readOnlyHistory, Use.converters, RecordType.converters, Sample.user, Sample.member,
        Sample.audit, Sample.readOnly, Sample.strict, Sample.plain, Sample.renamed, Sample.flagged,
        Sample.converted, Sample.ignored, DeclaredType.toRecordType, DeclaredType.flattenedAs,
        Schema.fields]
  obtain ⟨reads, -⟩ := mapper_reads Sample.readOnly readOnlyHistory apart
  exact ⟨apart, (reads _ _).mp rfl, (reads _ _).mp rfl⟩

end Registry

end SqlRecords
