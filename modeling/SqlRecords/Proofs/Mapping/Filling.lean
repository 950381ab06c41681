import SqlRecords.Proofs.Mapping.Places
import SqlRecords.Proofs.Mapping.Registry
import SqlRecords.Sample.Records

/-!
# What a mapper fills

Each entry of the field table fills the place that its name leads to, from its own column and
through its own converter. `DeclaredType.mapRow_fills` shows this for every row, and that the place
is the one that the entry stems from unless the name is overtaken.
-/

namespace SqlRecords

/-- The value that the converter makes of the raw one; without a converter this is the raw one. -/
def Converts (converter : Option Converter) (raw v : Value) : Prop :=
  match converter with
  | none => v = raw
  | some c => c.convert raw = .ok v

/-- Reading the column of the field makes `new` of `old`. A column that the row does not have leaves
the field alone. -/
def Field.Fills (f : Field) (row : Row) (t : FieldType) (old new : t.Carrier) : Prop :=
  match row.get? f.column with
  | none => new = old
  | some raw => ∃ v, Converts f.converter raw v ∧ Schema.write t old v = .ok new

/-! ### The entries of a table -/

namespace DeclaredType

theorem get?_ofType (d : DeclaredType) (name : String) :
    (FieldTable.ofType d.toRecordType).get? name =
      (d.schema.declared name).map Place.field := by
  rw [FieldTable.get?_ofType]
  change d.schema.fields.find? _ = _
  rw [← Schema.map_field_places, List.find?_map]
  rfl

theorem mem_ofType_iff (d : DeclaredType) (f : Field) :
    f ∈ (FieldTable.ofType d.toRecordType).entries ↔
      ∃ p, d.schema.declared p.field.name = some p ∧ p.field = f := by
  constructor
  · intro member
    have found : (FieldTable.ofType d.toRecordType).get? f.name = some f :=
      FieldTable.find?_of_mem (FieldTable.pairwise_firstsFrom [] d.schema.fields) member
    rw [get?_ofType] at found
    obtain ⟨p, first, rfl⟩ := Option.map_eq_some_iff.mp found
    exact ⟨p, first, rfl⟩
  · rintro ⟨p, first, rfl⟩
    have found : (FieldTable.ofType d.toRecordType).get? p.field.name = some p.field := by
      rw [get?_ofType, first, Option.map_some]
    exact List.mem_of_find?_eq_some found

end DeclaredType

/-! ### One entry -/

namespace Mapper

variable {d : DeclaredType} {type : String} {row : Row} {f : Field} {q : Place d.schema}

theorem prepare_ok_iff {raw v : Value} :
    prepare type f f.converter raw = .ok v ↔ Converts f.converter raw v := by
  cases f.converter with
  | none =>
    constructor
    · intro same
      exact (Except.ok.inj same).symm
    · rintro rfl
      rfl
  | some c =>
    rw [prepare, Converts]
    cases c.convert raw with
    | error e =>
      constructor
      · intro made
        cases made
      · intro made
        cases made
    | ok w => exact Iff.of_eq (by rw [Except.mapError, Except.ok.injEq, Except.ok.injEq])

theorem put_eq_ok_iff {T : RecordType} (r r' : T.Carrier) (v : Value) :
    put T type r f v = .ok r' ↔ T.assign r f.name v = .ok (some r') := by
  rw [put]
  cases T.assign r f.name v with
  | error e => exact iff_of_false nofun nofun
  | ok written =>
    cases written with
    | none => exact iff_of_false nofun nofun
    | some r'' => rw [Except.ok.injEq, Except.ok.injEq, Option.some.injEq]

theorem put_ok_iff (leads : d.schema.target f.name = some q) (r r' : d.schema.Record) (v : Value) :
    put d.toRecordType type r f v = .ok r' ↔
      Schema.write q.type (q.get r) v = .ok (q.get r') ∧ ∀ p, p ≠ q → p.get r' = p.get r := by
  refine (put_eq_ok_iff (T := d.toRecordType) r r' v).trans ?_
  change d.schema.assign r f.name v = .ok (some r') ↔ _
  rw [Schema.assign_of_target leads]
  cases Schema.write q.type (q.get r) v with
  | error e => exact iff_of_false nofun fun held => nomatch held.1
  | ok x =>
    change Except.ok (some (q.set r x)) = Except.ok (some r') ↔ _
    rw [Except.ok.injEq, Except.ok.injEq, Option.some.injEq, Place.set_eq_iff, eq_comm (a := x)]

theorem fill_ok_iff (leads : d.schema.target f.name = some q) (r r' : d.schema.Record) :
    fill d.toRecordType type row r (f, f.converter) = .ok r' ↔
      f.Fills row q.type (q.get r) (q.get r') ∧ ∀ p, p ≠ q → p.get r' = p.get r := by
  have filled : fill d.toRecordType type row r (f, f.converter) =
      match row.get? f.column with
      | none => .ok r
      | some raw => prepare type f f.converter raw >>= put d.toRecordType type r f := rfl
  rw [filled, Field.Fills]
  cases row.get? f.column with
  | none =>
    constructor
    · intro same
      obtain rfl := Except.ok.inj same
      exact ⟨rfl, fun _ _ => rfl⟩
    · rintro ⟨here, elsewhere⟩
      refine congrArg _ (Place.ext fun p => ?_)
      by_cases same : p = q
      · subst same
        exact here.symm
      · exact (elsewhere p same).symm
  | some raw =>
    constructor
    · intro made
      obtain ⟨v, prepared, written⟩ := bind_ok made
      obtain ⟨here, elsewhere⟩ := (put_ok_iff leads r r' v).mp written
      exact ⟨⟨v, prepare_ok_iff.mp prepared, here⟩, elsewhere⟩
    · rintro ⟨⟨v, converted, here⟩, elsewhere⟩
      have prepared : prepare type f f.converter raw = .ok v := prepare_ok_iff.mpr converted
      change prepare type f f.converter raw >>= put d.toRecordType type r f = _
      rw [prepared]
      exact (put_ok_iff leads r r' v).mpr ⟨here, elsewhere⟩

/-! ### All entries -/

/-- The fields make `r'` of `r`: each of them fills the place that its name leads to, and the places
that no name leads to hold what they held. -/
structure FillAll (d : DeclaredType) (row : Row) (es : List Field) (r r' : d.schema.Record) :
    Prop where
  filled : ∀ f ∈ es, ∀ q, d.schema.target f.name = some q →
    f.Fills row q.type (q.get r) (q.get r')
  kept : ∀ q, (∀ f ∈ es, d.schema.target f.name ≠ some q) → q.get r' = q.get r

theorem fillAll_nil_iff (r r' : d.schema.Record) : FillAll d row [] r r' ↔ r = r' := by
  constructor
  · rintro ⟨-, kept⟩
    exact Place.ext fun p => (kept p nofun).symm
  · rintro rfl
    exact ⟨nofun, fun _ _ => rfl⟩

theorem fillAll_cons_iff {rest : List Field} (leads : d.schema.target f.name = some q)
    (aside : ∀ g ∈ rest, d.schema.target g.name ≠ some q) (r r' : d.schema.Record) :
    FillAll d row (f :: rest) r r' ↔
      f.Fills row q.type (q.get r) (q.get r') ∧ FillAll d row rest (q.set r (q.get r')) r' := by
  constructor
  · rintro ⟨filled, kept⟩
    refine ⟨filled f List.mem_cons_self q leads, fun g member p leads' => ?_, fun p unled => ?_⟩
    · have other : p ≠ q := fun same => aside g member (same ▸ leads')
      rw [Place.get_set_other other]
      exact filled g (List.mem_cons_of_mem f member) p leads'
    · by_cases same : p = q
      · subst same
        rw [Place.get_set]
      · rw [Place.get_set_other same]
        refine kept p fun g member => ?_
        cases member with
        | head => exact fun back => same (Option.some.inj (back.symm.trans leads))
        | tail _ member => exact unled g member
  · rintro ⟨here, filled, kept⟩
    refine ⟨fun g member p leads' => ?_, fun p unled => ?_⟩
    · cases member with
      | head =>
        obtain rfl := Option.some.inj (leads.symm.trans leads')
        exact here
      | tail _ member =>
        have other : p ≠ q := fun same => aside g member (same ▸ leads')
        rw [← Place.get_set_other other r (q.get r')]
        exact filled g member p leads'
    · have other : p ≠ q := fun same => unled f List.mem_cons_self (same ▸ leads)
      rw [← Place.get_set_other other r (q.get r')]
      exact kept p fun g member => unled g (List.mem_cons_of_mem f member)

theorem foldlM_fill_iff {es : List Field} (apart : es.Pairwise fun f g => f.name ≠ g.name)
    (known : ∀ f ∈ es, d.schema.accepts f.name = true) (r r' : d.schema.Record) :
    (es.map fun f => (f, f.converter)).foldlM (fill d.toRecordType type row) r = .ok r' ↔
      FillAll d row es r r' := by
  induction apart generalizing r with
  | nil =>
    rw [fillAll_nil_iff]
    exact ⟨fun same => Except.ok.inj same, fun same => congrArg _ same⟩
  | @cons f rest others _ ih =>
    have later := ih fun g member => known g (List.mem_cons_of_mem f member)
    obtain ⟨q, leads⟩ := Schema.exists_target (known f List.mem_cons_self)
    -- Names lead to places of their own, so that no later entry comes back to this place.
    have aside : ∀ g ∈ rest, d.schema.target g.name ≠ some q := fun g member back =>
      others g member ((Schema.name_of_target leads).symm.trans (Schema.name_of_target back))
    rw [fillAll_cons_iff leads aside]
    change (fill d.toRecordType type row r (f, f.converter) >>= fun r₁ : d.schema.Record =>
      (rest.map fun g => (g, g.converter)).foldlM (fill d.toRecordType type row) r₁) = _ ↔ _
    constructor
    · intro made
      obtain ⟨r₁, first, made⟩ := bind_ok made
      obtain ⟨here, elsewhere⟩ := (fill_ok_iff leads r r₁).mp first
      have all := (later r₁).mp made
      have stays : q.get r' = q.get r₁ := all.kept q aside
      rw [stays, (Place.set_eq_iff q r r₁ (q.get r₁)).mpr ⟨rfl, elsewhere⟩]
      exact ⟨here, all⟩
    · rintro ⟨here, all⟩
      have first : fill d.toRecordType type row r (f, f.converter) = .ok (q.set r (q.get r')) := by
        obtain ⟨held, elsewhere⟩ := (Place.set_eq_iff q r _ (q.get r')).mp rfl
        refine (fill_ok_iff leads r _).mpr ⟨?_, elsewhere⟩
        rw [held]
        exact here
      rw [first]
      exact (later _).mpr all

end Mapper

namespace DeclaredType

/-- Each entry of the field table fills the place that `place` gives for its name, and all other
places hold what they hold by default. -/
structure FilledBy (d : DeclaredType) (place : String → Option (Place d.schema)) (row : Row)
    (r : d.schema.Record) : Prop where
  entries : ∀ f ∈ (FieldTable.ofType d.toRecordType).entries, ∀ q, place f.name = some q →
    f.Fills row q.type q.type.default (q.get r)
  others : ∀ q, place q.field.name ≠ some q → q.get r = q.type.default

theorem exists_entry {d : DeclaredType} {name : String} (has : d.schema.accepts name = true) :
    ∃ f ∈ (FieldTable.ofType d.toRecordType).entries, f.name = name := by
  obtain ⟨p, first⟩ := Schema.exists_declared has
  have same : p.field.name = name := Schema.name_of_declared first
  exact ⟨p.field, (d.mem_ofType_iff p.field).mpr ⟨p, same ▸ first, rfl⟩, same⟩

theorem accepts_of_mem {d : DeclaredType} {f : Field}
    (member : f ∈ (FieldTable.ofType d.toRecordType).entries) : d.schema.accepts f.name = true := by
  obtain ⟨p, first, rfl⟩ := (d.mem_ofType_iff f).mp member
  rw [← Schema.isSome_declared, first, Option.isSome_some]

/-- Mapping a row fills the places that the names of the table lead to. -/
theorem mapRow_ok_iff {d : DeclaredType} {registry : Registry}
    (truthful : registry.Truthful d.toRecordType) (row : Row) (r : d.schema.Record) :
    (registry.mapper d.toRecordType).1.mapRow d.toRecordType row = .ok r ↔
      d.FilledBy d.schema.target row r := by
  rw [Registry.mapper_eq truthful]
  refine (Mapper.foldlM_fill_iff (FieldTable.pairwise_firstsFrom [] d.schema.fields)
    (fun _ => accepts_of_mem) d.schema.default r).trans ?_
  constructor
  · rintro ⟨filled, kept⟩
    refine ⟨fun f member q leads => ?_, fun q unled => ?_⟩
    · rw [← Place.get_default]
      exact filled f member q leads
    · rw [← Place.get_default]
      refine kept q fun f _ leads => unled ?_
      rw [Schema.name_of_target leads]
      exact leads
  · rintro ⟨filled, others⟩
    refine ⟨fun f member q leads => ?_, fun q untouched => ?_⟩
    · rw [Place.get_default]
      exact filled f member q leads
    · rw [Place.get_default]
      refine others q fun leads => ?_
      obtain ⟨f, member, same⟩ := exists_entry (Schema.accepts_of_target leads)
      exact untouched f member (same ▸ leads)

/-- The entry of a name is the one of the place that the name is declared at, and mapping a row
fills the place that the name leads to from the column of this entry. The two places are the same
unless the name is overtaken; a type without such names fills each place from its own column. -/
theorem mapRow_fills (d : DeclaredType) (registry : Registry) (row : Row)
    (truthful : registry.Truthful d.toRecordType) :
    (∀ name, (FieldTable.ofType d.toRecordType).get? name =
      (d.schema.declared name).map Place.field) ∧
    (∀ r : d.schema.Record,
      (registry.mapper d.toRecordType).1.mapRow d.toRecordType row = .ok r ↔
        d.FilledBy d.schema.target row r) ∧
    (∀ name, d.schema.target name = d.schema.declared name ↔ ¬ d.schema.Overtaken name) ∧
    ((∀ name, ¬ d.schema.Overtaken name) →
      ∀ r : d.schema.Record,
        (registry.mapper d.toRecordType).1.mapRow d.toRecordType row = .ok r ↔
          d.FilledBy d.schema.declared row r) := by
  refine ⟨d.get?_ofType, mapRow_ok_iff truthful row, d.schema.target_eq_declared_iff, ?_⟩
  intro ordered r
  have same : d.schema.target = d.schema.declared :=
    funext fun name => (d.schema.target_eq_declared_iff name).mpr (ordered name)
  rw [← same]
  exact mapRow_ok_iff truthful row r

theorem truthful_empty {d : DeclaredType} {c : Converter}
    (alone : ∀ f ∈ d.schema.fields, f.converter = none ∨ f.converter = some c) :
    ({} : Registry).Truthful d.toRecordType where
  table := nofun
  known := by
    refine ⟨fun _ _ _ _ => nofun, fun f member c₁ held g other c₂ held' _ => ?_⟩
    obtain none₁ | some₁ := alone f member
    · simp [none₁] at held
    · obtain none₂ | some₂ := alone g other
      · simp [none₂] at held'
      · exact (Option.some.inj (held.symm.trans some₁)).trans
          (Option.some.inj (held'.symm.trans some₂)).symm

/-- A row for `Sample.memberView`, with a column that no field is filled from. -/
def viewRow : Row := ⟨[("ROLE", .text "admin"), ("enabled", .text "ok"), ("name", .text "x")]⟩

theorem mapRow_fills_memberView :
    ({} : Registry).Truthful Sample.memberView.toRecordType ∧
    (∀ name, ¬ Sample.memberView.schema.Overtaken name) ∧
    ∀ r : Sample.memberView.schema.Record,
      (({} : Registry).mapper Sample.memberView.toRecordType).1.mapRow
          Sample.memberView.toRecordType viewRow = .ok r ↔
        Sample.memberView.FilledBy Sample.memberView.schema.declared viewRow r := by
  have truthful : ({} : Registry).Truthful Sample.memberView.toRecordType :=
    truthful_empty (c := .flag) <| by
      simp [Sample.memberView, Sample.member, Sample.audit, flattenedAs, Sample.plain,
        Sample.renamed, Sample.flagged, Sample.converted, Sample.ignored, Schema.fields]
  have ordered : ∀ name, ¬ Sample.memberView.schema.Overtaken name := by
    intro name
    by_cases role : "role" = name
    · subst role
      simp [Sample.memberView, Sample.member, Sample.audit, flattenedAs, Sample.plain,
        Sample.renamed, Sample.flagged, Sample.converted, Sample.ignored,
        Schema.overtaken_flatten_iff, Schema.overtaken_field_iff, Schema.accepts]
    · simp [Sample.memberView, Sample.member, Sample.audit, flattenedAs, Sample.plain,
        Sample.renamed, Sample.flagged, Sample.converted, Sample.ignored, role,
        Schema.overtaken_flatten_iff, Schema.overtaken_field_iff, Schema.owns]
  exact ⟨truthful, ordered, (mapRow_fills Sample.memberView {} viewRow truthful).2.2.2 ordered⟩

/-- The place in `Sample.clash` at which the entry of `version` is declared. -/
def auditVersion : Place Sample.clash.schema := .inside (.later .here)

/-- The plain field `version` of `Sample.clash`. -/
def ownVersion : Place Sample.clash.schema := .behind .here

/-- A row with a version. -/
def versionRow : Row := ⟨[("version", .int ⟨5, by decide⟩)]⟩

theorem clash_version_overtaken :
    Sample.clash.schema.declared "version" = some auditVersion ∧
    Sample.clash.schema.target "version" = some ownVersion ∧
    ∃ r : Sample.clash.schema.Record,
      (({} : Registry).mapper Sample.clash.toRecordType).1.mapRow Sample.clash.toRecordType
          versionRow = .ok r ∧
        auditVersion.get r = none ∧ ownVersion.get r = "5" ∧
          ¬ Sample.clash.FilledBy Sample.clash.schema.declared versionRow r := by
  let r : Sample.clash.schema.Record := (("", none, ()), "5", (none, none, ()), (none, ()), ())
  refine ⟨rfl, rfl, r, rfl, rfl, rfl, fun filled => ?_⟩
  have entry : auditVersion.field ∈ (FieldTable.ofType Sample.clash.toRecordType).entries :=
    (mem_ofType_iff Sample.clash auditVersion.field).mpr ⟨auditVersion, rfl, rfl⟩
  obtain ⟨v, converted, written⟩ := filled.entries auditVersion.field entry auditVersion rfl
  obtain rfl : v = .int ⟨5, by decide⟩ := converted
  have held : some (⟨5, by decide⟩ : I32) = none := Except.ok.inj written
  cases held

end DeclaredType

end SqlRecords
