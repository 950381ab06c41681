import Mathlib.Data.List.Pairwise
import SqlRecords.Proofs.Mapping.Filling
import SqlRecords.Proofs.Mapping.History
import SqlRecords.Proofs.Mapping.Leaves
import SqlRecords.Proofs.Row

/-!
# Reading back what was written

Where fields differ in name and in column, a name and a column each lead to one place. A record that
is written to a table and mapped from its row then comes back with each written field as it was
(`DeclaredType.mapRow_written`).
-/

namespace SqlRecords

namespace Schema

/-! ### Leaves and places -/

theorem leaves_eq (s : Schema) (r : s.Record) :
    s.leaves r = s.places.map fun p => (p.field, p.type.write (p.get r)) := by
  induction s with
  | nil => rfl
  | field f t rest ih =>
    obtain ⟨x, xs⟩ := r
    rw [leaves, ih, places, List.map_cons, List.map_map]
    rfl
  | flatten name key inner rest ihInner ihRest =>
    obtain ⟨x, xs⟩ := r
    rw [leaves, ihInner, ihRest, places, List.map_append, List.map_map, List.map_map]
    rfl

theorem mem_values_iff_place {s : Schema} {r : s.Record} {entry : String × Value} :
    entry ∈ s.values r ↔
      ∃ p : Place s, p.field.ignored = false ∧
        (p.field.column, p.type.write (p.get r)) = entry := by
  rw [mem_values_iff, leaves_eq]
  constructor
  · rintro ⟨leaf, member, written⟩
    obtain ⟨p, -, rfl⟩ := List.mem_map.mp member
    exact ⟨p, written⟩
  · rintro ⟨p, written⟩
    exact ⟨_, List.mem_map_of_mem (mem_places p), written⟩

/-! ### Schemas without ambiguity -/

/-- Fields differ in name, and in column also when case is ignored; flattened ones count. Flags
alone may go through a converter, which is the one for flags. -/
structure Unambiguous (s : Schema) : Prop where
  names : (s.fields.map Field.name).Nodup
  columns : s.fields.Pairwise fun f g => ¬ Text.sameIgnoringCase f.column g.column = true
  converters : ∀ p : Place s, p.field.converter = none ∨
    p.field.converter = some .flag ∧ p.type = .required .bool

namespace Unambiguous

variable {s : Schema} {p q : Place s}

theorem eq_of_name (unambiguous : s.Unambiguous) (same : p.field.name = q.field.name) : p = q := by
  have names := unambiguous.names
  rw [← map_field_places, List.map_map] at names
  exact List.inj_on_of_nodup_map names (mem_places p) (mem_places q) same

theorem eq_of_column (unambiguous : s.Unambiguous)
    (same : Text.sameIgnoringCase p.field.column q.field.column = true) : p = q := by
  have columns := unambiguous.columns
  rw [← map_field_places, List.pairwise_map] at columns
  by_contra other
  have symmetric : Std.Symm fun p q : Place s =>
      ¬ Text.sameIgnoringCase p.field.column q.field.column = true :=
    ⟨fun _ _ differ back => differ (Text.sameIgnoringCase_symm back)⟩
  exact columns.forall (mem_places p) (mem_places q) other same

theorem target (unambiguous : s.Unambiguous) (p : Place s) : s.target p.field.name = some p := by
  obtain ⟨q, leads⟩ := exists_target (accepts_field p)
  obtain rfl := unambiguous.eq_of_name (name_of_target leads)
  exact leads

end Unambiguous

/-! ### Rows that show a record -/

section Shown

variable {s : Schema} {r : s.Record} {row : Row} {p : Place s}

theorem get?_of_written (unambiguous : s.Unambiguous) (shown : row.Shows (s.values r))
    (written : p.field.ignored = false) :
    row.get? p.field.column = some (p.type.write (p.get r)) := by
  have member : (p.field.column, p.type.write (p.get r)) ∈ s.values r :=
    mem_values_iff_place.mpr ⟨p, written, rfl⟩
  refine shown.get?_eq_some member fun entry present same => ?_
  obtain ⟨q, -, rfl⟩ := mem_values_iff_place.mp present
  obtain rfl := unambiguous.eq_of_column same
  rfl

theorem get?_of_ignored (unambiguous : s.Unambiguous) (shown : row.Shows (s.values r))
    (ignored : p.field.ignored = true) : row.get? p.field.column = none := by
  refine shown.get?_eq_none fun entry present same => ?_
  obtain ⟨q, written, rfl⟩ := mem_values_iff_place.mp present
  obtain rfl := unambiguous.eq_of_column same
  rw [written] at ignored
  cases ignored

end Shown

/-- The record with the written fields of `r` and the ignored ones of `start`. -/
def written : (s : Schema) → (start r : s.Record) → s.Record
  | nil, _, _ => ()
  | field f _ rest, (x, xs), (y, ys) => (if f.ignored then x else y, rest.written xs ys)
  | flatten _ _ inner rest, (x, xs), (y, ys) => (inner.written x y, rest.written xs ys)

theorem get_written {s : Schema} (p : Place s) (start r : s.Record) :
    p.get (s.written start r) = if p.field.ignored then p.get start else p.get r := by
  induction p with
  | here => rfl
  | later p ih => exact ih start.2 r.2
  | inside p ih => exact ih start.1 r.1
  | behind p ih => exact ih start.2 r.2

end Schema

/-! ### Values that read back -/

theorem BaseType.ne_ok_of_read_null {b : BaseType} (other : b ≠ .value) (x : b.Carrier) :
    b.read .null ≠ .ok x := by
  cases b with
  | value => exact absurd rfl other
  | _ => nofun

theorem FieldType.acceptsNull_of_read {t : FieldType} {x : t.Carrier}
    (made : t.read .null = .ok x) : t.acceptsNull = true := by
  cases t with
  | optional b => rfl
  | required b =>
    by_contra refused
    have other : b ≠ .value := fun same => refused (decide_eq_true same)
    exact BaseType.ne_ok_of_read_null other x made

theorem Schema.write_of_read {t : FieldType} {x : t.Carrier} {v : Value} (old : t.Carrier)
    (made : t.read v = .ok x) : Schema.write t old v = .ok x := by
  rw [Schema.write]
  cases v with
  | null =>
    rw [FieldType.acceptsNull_of_read made]
    exact made
  | _ => exact made

theorem Converter.flag_write {t : FieldType} (flag : t = .required .bool) (x : t.Carrier) :
    Converter.flag.convert (t.write x) = .ok (t.write x) := by
  subst flag
  rfl

theorem Schema.Unambiguous.converts {s : Schema} (unambiguous : s.Unambiguous) (p : Place s)
    (x : p.type.Carrier) : Converts p.field.converter (p.type.write x) (p.type.write x) := by
  obtain none | ⟨held, flag⟩ := unambiguous.converters p
  · rw [none]
    rfl
  · rw [held]
    exact Converter.flag_write flag x

theorem Schema.fills_written {s : Schema} {start r : s.Record} {row : Row}
    (unambiguous : s.Unambiguous) (shown : row.Shows (s.values r)) (p : Place s)
    (readable : p.field.ignored = false → p.type.read (p.type.write (p.get r)) = .ok (p.get r)) :
    p.field.Fills row p.type (p.get start) (p.get (s.written start r)) := by
  rw [Field.Fills, get_written]
  cases ignored : p.field.ignored with
  | true =>
    rw [get?_of_ignored unambiguous shown ignored]
    rfl
  | false =>
    rw [get?_of_written unambiguous shown ignored]
    exact ⟨_, unambiguous.converts p (p.get r), write_of_read (p.get start) (readable ignored)⟩

/-- The record type whose default record is `start`. -/
def DeclaredType.startingAs (d : DeclaredType) (start : d.schema.Record) : RecordType :=
  { d.toRecordType with default := start, blank := .ok start }

namespace Mapper

variable {d : DeclaredType} (start : d.schema.Record)

theorem put_startingAs (type : String) (r : d.schema.Record) (f : Field) (v : Value) :
    put (d.startingAs start) type r f v = put d.toRecordType type r f v := by
  have same : (d.startingAs start).assign r f.name v = d.toRecordType.assign r f.name v := rfl
  unfold put
  rw [same]
  cases d.toRecordType.assign r f.name v with
  | error e => rfl
  | ok written => cases written <;> rfl

theorem fill_startingAs (type : String) (row : Row) :
    fill (d.startingAs start) type row = fill d.toRecordType type row := by
  funext r entry
  unfold fill
  cases row.get? entry.1.column with
  | none => rfl
  | some raw =>
    have puts : put (d.startingAs start) type r entry.1 = put d.toRecordType type r entry.1 :=
      funext fun v => put_startingAs start type r entry.1 v
    exact congrArg (prepare type entry.1 entry.2 raw >>= ·) puts

theorem mapRow_startingAs (m : Mapper) (row : Row) :
    m.mapRow (d.startingAs start) row = m.entries.foldlM (fill d.toRecordType m.type row) start :=
  congrArg (fun step => m.entries.foldlM step start) (fill_startingAs start m.type row)

end Mapper

namespace DeclaredType

/-- A record is written to a table, its row shows the columns in any order and in letters of either
case, and a mapper made after any history reads the row. This gives the record, except that ignored
fields are as in the default record. -/
theorem mapRow_written (d : DeclaredType) (start r : d.schema.Record) (row : Row)
    (uses : List Registry.Use)
    (apart : Registry.Distinguished (uses ++ [.mapper (d.startingAs start)]))
    (unambiguous : d.schema.Unambiguous)
    (readable : ∀ p : Place d.schema, p.field.ignored = false →
      p.type.read (p.type.write (p.get r)) = .ok (p.get r))
    (shown : row.Shows (d.schema.values r)) :
    ∃ back : d.schema.Record,
      ((Registry.run {} uses).mapper (d.startingAs start)).1.mapRow (d.startingAs start) row =
        .ok back ∧
      (∀ p : Place d.schema, p.field.ignored = false → p.get back = p.get r) ∧
      ∀ p : Place d.schema, p.field.ignored = true → p.get back = p.get start := by
  have known : ∀ f ∈ (FieldTable.ofType d.toRecordType).entries,
      ∃ p : Place d.schema, p.field = f := fun f entry =>
    Schema.mem_fields_iff.mp (FieldTable.mem_of_mem_firstsFrom entry).1
  have filled : Mapper.FillAll d row (FieldTable.ofType d.toRecordType).entries start
      (d.schema.written start r) := by
    refine ⟨fun f entry q leads => ?_, fun q untouched => ?_⟩
    -- A name leads to the one place that declares it, so that an entry fills its own place.
    · obtain ⟨p, rfl⟩ := known f entry
      obtain rfl := Option.some.inj ((unambiguous.target p).symm.trans leads)
      exact Schema.fills_written unambiguous shown p (readable p)
    · obtain ⟨f, entry, same⟩ := exists_entry (Schema.accepts_field q)
      exact absurd (same ▸ unambiguous.target q) (untouched f entry)
  refine ⟨d.schema.written start r, ?_, fun p written => ?_, fun p ignored => ?_⟩
  · rw [Registry.mapper_eq (Registry.truthful_run apart), Mapper.mapRow_startingAs]
    exact (Mapper.foldlM_fill_iff (FieldTable.pairwise_firstsFrom [] d.schema.fields)
      (fun f => accepts_of_mem) start _).mpr filled
  · rw [Schema.get_written, written]
    rfl
  · rw [Schema.get_written, ignored]
    rfl

/-! ### A member that comes back -/

/-- The default record has a label, which is not what the declared type gives. -/
def guest : Sample.memberView.schema.Record :=
  ((IntType.zero .i64, "", false, "guest", ("", none, ()), ()), "", ())

def ann : Sample.memberView.schema.Record :=
  ((⟨7, by decide⟩, "ann", true, "hidden", ("root", some ⟨3, by decide⟩, ()), ()), "admin", ())

def annRow : Row :=
  ⟨[("VERSION", .int ⟨3, by decide⟩), ("Created_By", .text "root"), ("Enabled", .bool true),
    ("USER_NAME", .text "ann"), ("Id", .bigint ⟨7, by decide⟩), ("Role", .text "admin")]⟩

theorem unambiguous_memberView : Sample.memberView.schema.Unambiguous where
  names := by decide
  columns := by decide
  converters
    | .inside .here => .inl rfl
    | .inside (.later .here) => .inl rfl
    | .inside (.later (.later .here)) => .inr ⟨rfl, rfl⟩
    | .inside (.later (.later (.later .here))) => .inl rfl
    | .inside (.later (.later (.later (.later (.inside .here))))) => .inl rfl
    | .inside (.later (.later (.later (.later (.inside (.later .here)))))) => .inl rfl
    | .behind .here => .inl rfl

theorem readable_ann :
    ∀ p : Place Sample.memberView.schema, p.type.read (p.type.write (p.get ann)) = .ok (p.get ann)
  | .inside .here => rfl
  | .inside (.later .here) => rfl
  | .inside (.later (.later .here)) => rfl
  | .inside (.later (.later (.later .here))) => rfl
  | .inside (.later (.later (.later (.later (.inside .here))))) => rfl
  | .inside (.later (.later (.later (.later (.inside (.later .here)))))) => rfl
  | .behind .here => rfl

theorem shows_ann : annRow.Shows (Sample.memberView.schema.values ann) := by
  refine ⟨(Sample.memberView.schema.values ann).reverse, List.reverse_perm _, ?_⟩
  exact .cons ⟨rfl, rfl⟩ <| .cons ⟨rfl, rfl⟩ <| .cons ⟨rfl, rfl⟩ <| .cons ⟨rfl, rfl⟩ <|
    .cons ⟨rfl, rfl⟩ <| .cons ⟨rfl, rfl⟩ .nil

/-- Types that share the converter of flags are mapped before, also after the registry is
cleared. -/
def annHistory : List Registry.Use :=
  [.mapper Sample.user.toRecordType, .clear, .mapper Sample.member.toRecordType]

theorem mapRow_written_ann :
    Registry.Distinguished (annHistory ++ [.mapper (Sample.memberView.startingAs guest)]) ∧
    Sample.memberView.schema.Unambiguous ∧
    (∀ p : Place Sample.memberView.schema, p.field.ignored = false →
      p.type.read (p.type.write (p.get ann)) = .ok (p.get ann)) ∧
    annRow.Shows (Sample.memberView.schema.values ann) ∧
    ∃ back : Sample.memberView.schema.Record,
      ((Registry.run {} annHistory).mapper (Sample.memberView.startingAs guest)).1.mapRow
          (Sample.memberView.startingAs guest) annRow = .ok back ∧
      (∀ p : Place Sample.memberView.schema, p.field.ignored = false →
        p.get back = p.get ann) ∧
      ∀ p : Place Sample.memberView.schema, p.field.ignored = true →
        p.get back = p.get guest := by
  have apart : Registry.Distinguished
      (annHistory ++ [.mapper (Sample.memberView.startingAs guest)]) := by
    refine Registry.distinguished_of_nodup
      [Sample.user.toRecordType, Sample.member.toRecordType, Sample.memberView.startingAs guest]
      [.flag] ?_ ?_ (by decide) (by decide)
    · simp [annHistory, Registry.Use.types]
    · simp [annHistory, Registry.Use.converters, RecordType.converters, startingAs, Sample.user,
        Sample.memberView, Sample.member, Sample.audit, Sample.plain, Sample.renamed,
        Sample.flagged, Sample.converted, Sample.ignored, toRecordType, flattenedAs, Schema.fields]
  have readable : ∀ p : Place Sample.memberView.schema, p.field.ignored = false →
      p.type.read (p.type.write (p.get ann)) = .ok (p.get ann) := fun p _ => readable_ann p
  exact ⟨apart, unambiguous_memberView, readable, shows_ann,
    mapRow_written Sample.memberView guest ann annRow annHistory apart unambiguous_memberView
      readable shows_ann⟩

end DeclaredType

end SqlRecords
