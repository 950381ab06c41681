import SqlRecords.Proofs.Mapping.History

/-!
# Names of a declared type

The names that a declared type describes, accepts and writes are the same, however deep its records
are flattened. `DeclaredType.names_agree` concludes that mapping a row fails at the value of some
column or not at all.
-/

namespace SqlRecords

namespace Schema

theorem mem_names_iff (s : Schema) (name : String) :
    name ∈ s.fields.map Field.name ↔ s.accepts name = true := by
  constructor
  · intro described
    obtain ⟨f, member, rfl⟩ := List.mem_map.mp described
    obtain ⟨p, rfl⟩ := mem_fields_iff.mp member
    exact accepts_field p
  · intro has
    obtain ⟨p, found⟩ := exists_declared has
    have same := name_of_declared found
    exact List.mem_map.mpr ⟨p.field, mem_fields_iff.mpr ⟨p, rfl⟩, same⟩

theorem assign_of_accepts {s : Schema} {name : String} (has : s.accepts name = true)
    (r : s.Record) (v : Value) : s.assign r name v ≠ .ok none := by
  obtain ⟨p, leads⟩ := exists_target has
  rw [assign_of_target leads]
  cases write p.type (p.get r) v with
  | error e => intro wrong; cases wrong
  | ok x => intro wrong; cases wrong

theorem assign_of_not_accepts {s : Schema} {name : String} (lacks : s.accepts name = false)
    (r : s.Record) (v : Value) : s.assign r name v = .ok none := by
  have nowhere : s.target name = none := by
    rw [← isSome_target] at lacks
    exact Option.not_isSome_iff_eq_none.mp (by rw [lacks]; exact Bool.false_ne_true)
  rw [assign, assignFrom_eq, ← target, nowhere]

end Schema

/-- A walk that fails does so while putting one of its fields. -/
theorem RecordType.Walks.exists_puts {T : RecordType} {row : Row} {before rest : List Field}
    {r : T.Carrier} {e : MappingError} (walk : T.Walks row before rest r (.error e)) :
    ∃ f ∈ rest, ∃ r', T.Puts row r' f (.error e) := by
  generalize failure : Except.error e = outcome at walk
  induction walk with
  | done => cases failure
  | @again before rest f r outcome repeated later ih =>
    obtain ⟨g, member, r', puts⟩ := ih failure
    exact ⟨g, List.mem_cons_of_mem f member, r', puts⟩
  | @failed before rest f r e' first here =>
    obtain rfl := Except.error.inj failure
    exact ⟨f, List.mem_cons_self, r, here⟩
  | @put before rest f r r' outcome first here later ih =>
    obtain ⟨g, member, r'', puts⟩ := ih failure
    exact ⟨g, List.mem_cons_of_mem f member, r'', puts⟩

namespace DeclaredType

/-- The value of the field's column was refused, by the converter of the field or by its type. -/
def Refuses (d : DeclaredType) (f : Field) (e : MappingError) : Prop :=
  (∃ c source, f.converter = some c ∧ e = .converter d.name f.name c.name source) ∨
    ∃ source, e = .assignment d.name f.name f.column source

theorem refuses_of_puts {d : DeclaredType} {row : Row} {r : d.schema.Record} {f : Field}
    {e : MappingError} (described : f ∈ d.schema.fields)
    (puts : d.toRecordType.Puts row r f (.error e)) : d.Refuses f e := by
  cases puts with
  | notConverted holds through failed => exact .inl ⟨_, _, through, rfl⟩
  | notAssigned holds converted failed => exact .inr ⟨_, rfl⟩
  | noAccessor holds converted unknown =>
    have has := (d.schema.mem_names_iff f.name).mp (List.mem_map_of_mem described)
    exact absurd unknown (Schema.assign_of_accepts has r _)

theorem exists_refuses_of_reads {d : DeclaredType} {row : Row} {e : MappingError}
    (reads : d.toRecordType.Reads row (.error e)) : ∃ f ∈ d.schema.fields, d.Refuses f e := by
  cases reads with
  | noBlank failed => cases failed
  | walked blank walk =>
    obtain ⟨f, member, r, puts⟩ := walk.exists_puts
    exact ⟨f, member, refuses_of_puts member puts⟩

/-- A declared type describes a name, accepts it and writes values under it, or none of this: then
every assignment says that there is no such field. So a row that cannot be mapped, whatever the
registry was asked before, has a value that a field refuses. -/
theorem names_agree (d : DeclaredType) :
    (∀ name,
      (name ∈ d.toRecordType.fields.map Field.name ↔ d.toRecordType.accepts name = true) ∧
      (d.toRecordType.accepts name = true ↔
        ∀ r v, d.toRecordType.assign r name v ≠ .ok none) ∧
      (name ∉ d.toRecordType.fields.map Field.name →
        ∀ r v, d.toRecordType.assign r name v = .ok none)) ∧
    ∀ uses, Registry.Distinguished (uses ++ [.mapper d.toRecordType]) → ∀ row e,
      ((Registry.run {} uses).mapper d.toRecordType).1.mapRow d.toRecordType row = .error e →
        (∃ f ∈ d.toRecordType.fields, d.Refuses f e) ∧
        (∀ type field, e ≠ .noAccessor type field) ∧
        ∀ type reason, e ≠ .instantiation type reason := by
  constructor
  · intro name
    have described := d.schema.mem_names_iff name
    refine ⟨described, ⟨Schema.assign_of_accepts, fun written => ?_⟩, fun unknown => ?_⟩
    · by_contra lacks
      exact written d.schema.default .null
        (Schema.assign_of_not_accepts (Bool.eq_false_iff.mpr lacks) _ _)
    · exact Schema.assign_of_not_accepts (Bool.eq_false_iff.mpr fun has =>
        unknown (described.mpr has))
  · intro uses apart row e failed
    rw [Registry.mapper_eq (Registry.truthful_run apart)] at failed
    obtain ⟨f, member, refuses⟩ := exists_refuses_of_reads (Mapper.mapRow_eq_iff.mp failed)
    refine ⟨⟨f, member, refuses⟩, ?_, ?_⟩
    · rintro type field rfl
      obtain ⟨c, source, -, wrong⟩ | ⟨source, wrong⟩ := refuses
      · cases wrong
      · cases wrong
    · rintro type reason rfl
      obtain ⟨c, source, -, wrong⟩ | ⟨source, wrong⟩ := refuses
      · cases wrong
      · cases wrong

/-- Before `Sample.memberView` is mapped, the record type that it flattens was mapped and forgotten,
and one that has no field of a described name. -/
def viewHistory : List Registry.Use :=
  [.mapper Sample.member.toRecordType, .clear, .mapper Sample.readOnly]

/-- A version that is no number, for a field that lies two records deep. -/
def badVersionRow : Row := ⟨[("Role", .text "admin"), ("VERSION", .bytes [])]⟩

theorem names_agree_memberView :
    Registry.Distinguished (viewHistory ++ [.mapper Sample.memberView.toRecordType]) ∧
    (∀ r v, Sample.memberView.toRecordType.assign r "version" v ≠ .ok none) ∧
    (∀ r v, Sample.memberView.toRecordType.assign r "audit" v = .ok none) ∧
    ((Registry.run {} viewHistory).mapper Sample.memberView.toRecordType).1.mapRow
        Sample.memberView.toRecordType badVersionRow =
      .error (.assignment "MemberView" "version" "version" (.incompatible "i32" "bytes")) ∧
    ∃ f ∈ Sample.memberView.toRecordType.fields, Sample.memberView.Refuses f
      (.assignment "MemberView" "version" "version" (.incompatible "i32" "bytes")) := by
  have apart : Registry.Distinguished
      (viewHistory ++ [.mapper Sample.memberView.toRecordType]) := by
    refine Registry.distinguished_of_nodup
      [Sample.member.toRecordType, Sample.readOnly, Sample.memberView.toRecordType] [.flag]
      ?_ ?_ (by decide) (by decide)
    · simp [viewHistory, Registry.Use.types]
    · simp [viewHistory, Registry.Use.converters, RecordType.converters, Sample.memberView,
        Sample.member, Sample.audit, Sample.readOnly, Sample.plain, Sample.renamed,
        Sample.flagged, Sample.converted, Sample.ignored, toRecordType, flattenedAs,
        Schema.fields]
  have unknown : "audit" ∉ Sample.memberView.toRecordType.fields.map Field.name := by decide
  obtain ⟨names, rows⟩ := names_agree Sample.memberView
  obtain ⟨-, written, -⟩ := names "version"
  obtain ⟨-, -, unwritten⟩ := names "audit"
  obtain ⟨refuses, -, -⟩ := rows viewHistory apart badVersionRow _ rfl
  exact ⟨apart, written.mp rfl, unwritten unknown, rfl, refuses⟩

end DeclaredType

end SqlRecords
