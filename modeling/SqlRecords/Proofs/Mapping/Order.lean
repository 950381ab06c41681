import Mathlib.Data.List.Nodup
import SqlRecords.Proofs.Mapping.Places
import SqlRecords.Sample.Records

/-!
# The order of columns

A type describes its fields in the order of declaration, and a record writes its own fields before
those of the records flattened into it. `DeclaredType.values_rearrange` shows that nothing but the
order differs: both go through the same places, and through each of them once.
-/

namespace SqlRecords

/-- The column of a place, with what the record holds there. -/
def Place.entry {s : Schema} (r : s.Record) (p : Place s) : String × Value :=
  (p.field.column, p.type.write (p.get r))

namespace Schema

/-- The places of the outermost record. -/
def ownPlaces : (s : Schema) → List (Place s)
  | nil => []
  | field _ _ rest => .here :: rest.ownPlaces.map .later
  | flatten _ _ _ rest => rest.ownPlaces.map .behind

/-- The places of the flattened records; those of each stand before those of the records that are
flattened into it. -/
def innerPlaces : (s : Schema) → List (Place s)
  | nil => []
  | field _ _ rest => rest.innerPlaces.map .later
  | flatten _ _ inner rest =>
    (inner.ownPlaces ++ inner.innerPlaces).map .inside ++ rest.innerPlaces.map .behind

/-- A place that is written to a table. -/
def kept {s : Schema} (p : Place s) : Bool := !p.field.ignored

/-- The places that are written to a table, in the order of the columns. -/
def writtenPlaces (s : Schema) : List (Place s) := (s.ownPlaces ++ s.innerPlaces).filter kept

/-! ### The same places in another order -/

theorem nodup_places (s : Schema) : s.places.Nodup := by
  induction s with
  | nil => exact List.nodup_nil
  | field f t rest ih =>
    rw [places, List.nodup_cons]
    refine ⟨fun member => ?_, ih.map fun _ _ => Place.later.inj⟩
    obtain ⟨p, -, same⟩ := List.mem_map.mp member
    cases same
  | flatten name key inner rest ihInner ihRest =>
    rw [places]
    refine (ihInner.map fun _ _ => Place.inside.inj).append
      (ihRest.map fun _ _ => Place.behind.inj) ?_
    intro p first second
    obtain ⟨q, -, rfl⟩ := List.mem_map.mp first
    obtain ⟨q', -, same⟩ := List.mem_map.mp second
    cases same

theorem own_inner_perm (s : Schema) : (s.ownPlaces ++ s.innerPlaces).Perm s.places := by
  induction s with
  | nil => exact .refl _
  | field f t rest ih =>
    rw [ownPlaces, innerPlaces, places, List.cons_append, ← List.map_append]
    exact (ih.map Place.later).cons _
  | flatten name key inner rest ihInner ihRest =>
    rw [ownPlaces, innerPlaces, places]
    refine (List.perm_append_comm_assoc _ _ _).trans ((ihInner.map Place.inside).append ?_)
    rw [← List.map_append]
    exact ihRest.map Place.behind

theorem writtenPlaces_perm (s : Schema) : s.writtenPlaces.Perm (s.places.filter kept) :=
  s.own_inner_perm.filter kept

theorem nodup_writtenPlaces (s : Schema) : s.writtenPlaces.Nodup :=
  s.writtenPlaces_perm.nodup_iff.mpr (s.nodup_places.filter kept)

theorem mem_writtenPlaces_iff {s : Schema} (p : Place s) :
    p ∈ s.writtenPlaces ↔ p.field.ignored = false := by
  rw [s.writtenPlaces_perm.mem_iff, List.mem_filter, and_iff_right (mem_places p), kept,
    Bool.not_eq_true']

theorem map_field_writtenPlaces_perm (s : Schema) :
    (s.writtenPlaces.map Place.field).Perm (s.fields.filter fun f => !f.ignored) := by
  rw [← map_field_places, List.filter_map]
  exact s.writtenPlaces_perm.map Place.field

/-! ### What is written -/

/-- The columns that are written for these places, with what the record holds there. -/
def entriesAt {s : Schema} (r : s.Record) (ps : List (Place s)) : List (String × Value) :=
  (ps.filter kept).map (Place.entry r)

theorem entriesAt_append {s : Schema} (r : s.Record) (ps qs : List (Place s)) :
    entriesAt r (ps ++ qs) = entriesAt r ps ++ entriesAt r qs := by
  rw [entriesAt, List.filter_append, List.map_append, entriesAt, entriesAt]

section Parts

variable {f : Field} {t : FieldType} {name : String} {key : List String} {inner rest : Schema}

theorem entriesAt_later (r : (field f t rest).Record) (ps : List (Place rest)) :
    entriesAt r (ps.map .later) = entriesAt r.2 ps := by
  rw [entriesAt, List.filter_map, List.map_map]
  rfl

theorem entriesAt_inside (r : (flatten name key inner rest).Record) (ps : List (Place inner)) :
    entriesAt r (ps.map .inside) = entriesAt r.1 ps := by
  rw [entriesAt, List.filter_map, List.map_map]
  rfl

theorem entriesAt_behind (r : (flatten name key inner rest).Record) (ps : List (Place rest)) :
    entriesAt r (ps.map .behind) = entriesAt r.2 ps := by
  rw [entriesAt, List.filter_map, List.map_map]
  rfl

end Parts

theorem ownValues_eq (s : Schema) (r : s.Record) : s.ownValues r = entriesAt r s.ownPlaces := by
  induction s with
  | nil => rfl
  | field f t rest ih =>
    have later : rest.ownValues r.2 = entriesAt r (rest.ownPlaces.map .later) := by
      rw [ih, entriesAt_later]
    change (if f.ignored then rest.ownValues r.2
      else (f.column, t.write r.1) :: rest.ownValues r.2) = _
    rw [later, ownPlaces, entriesAt, entriesAt]
    cases ignored : f.ignored with
    | true =>
      rw [if_pos rfl, List.filter_cons_of_neg (by simp [kept, ignored])]
    | false =>
      rw [if_neg Bool.false_ne_true, List.filter_cons_of_pos (by simp [kept, ignored])]
      rfl
  | flatten name key inner rest ihInner ihRest =>
    rw [ownPlaces, entriesAt_behind, ← ihRest]
    rfl

theorem innerValues_eq (s : Schema) (r : s.Record) :
    s.innerValues r = entriesAt r s.innerPlaces := by
  induction s with
  | nil => rfl
  | field f t rest ih =>
    rw [innerPlaces, entriesAt_later, ← ih]
    rfl
  | flatten name key inner rest ihInner ihRest =>
    rw [innerPlaces, entriesAt_append, entriesAt_inside, entriesAt_behind, entriesAt_append,
      ← ownValues_eq, ← ihInner, ← ihRest]
    rfl

theorem values_eq (s : Schema) (r : s.Record) :
    s.values r = s.writtenPlaces.map (Place.entry r) := by
  rw [values, ownValues_eq, innerValues_eq, ← entriesAt_append]
  rfl

end Schema

namespace DeclaredType

/-- The columns that records of the type write are those of the places in `order`, whatever the
record, and the type describes the same columns as ones that are written. -/
structure Covers (d : DeclaredType) (order : List (Place d.schema)) : Prop where
  once : order.Nodup
  kept : ∀ p, p ∈ order ↔ p.field.ignored = false
  values : ∀ r, d.toRecordType.values r =
    order.map fun p => (p.field.column, p.type.write (p.get r))
  described : (order.map Place.field).Perm (d.toRecordType.fields.filter fun f => !f.ignored)
  columns : ∀ r, ((d.toRecordType.values r).map (·.1)).Perm
    ((d.toRecordType.fields.filter fun f => !f.ignored).map Field.column)

/-- A record writes each place once that is not ignored, as its column with what the record holds
there. These are the columns that the type describes without the ignored ones, in an order that is
the same for all records. -/
theorem values_rearrange (d : DeclaredType) : ∃ order, d.Covers order := by
  have described := d.schema.map_field_writtenPlaces_perm
  have columns (r : d.schema.Record) : ((d.schema.values r).map (·.1)).Perm
      ((d.schema.fields.filter fun f => !f.ignored).map Field.column) := by
    have perm := described.map Field.column
    rw [List.map_map] at perm
    rw [Schema.values_eq, List.map_map]
    exact perm
  exact ⟨d.schema.writtenPlaces, d.schema.nodup_writtenPlaces, Schema.mem_writtenPlaces_iff,
    d.schema.values_eq, described, columns⟩

/-- The own column `role` is written first and described last. -/
example :
    (Sample.memberView.toRecordType.values Sample.memberView.schema.default).map (·.1) =
      ["role", "id", "user_name", "enabled", "created_by", "version"] ∧
    (Sample.memberView.toRecordType.fields.filter fun f => !f.ignored).map Field.column =
      ["id", "user_name", "enabled", "created_by", "version", "role"] := ⟨rfl, rfl⟩

end DeclaredType

end SqlRecords
