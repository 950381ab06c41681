import SqlRecords.Mapping.Schema
import SqlRecords.Proofs.Outcome

/-!
# Places in a record

A place is one field of a record, or of a record flattened into it. A name is declared at its first
place, and a value assigned under the name is written at its target. `Schema.target_eq_declared_iff`
shows for which names these are the same place.
-/

namespace SqlRecords

/-- One field that records of a schema hold, flattened ones included. -/
inductive Place : Schema → Type where
  | here {f : Field} {t : FieldType} {rest : Schema} : Place (.field f t rest)
  | later {f : Field} {t : FieldType} {rest : Schema} (p : Place rest) : Place (.field f t rest)
  | inside {name : String} {key : List String} {inner rest : Schema} (p : Place inner) :
      Place (.flatten name key inner rest)
  | behind {name : String} {key : List String} {inner rest : Schema} (p : Place rest) :
      Place (.flatten name key inner rest)

namespace Place

/-- The field as it is declared at the place. -/
def field : {s : Schema} → Place s → Field
  | .field f _ _, here => f
  | .field _ _ _, later p => p.field
  | .flatten _ _ _ _, inside p => p.field
  | .flatten _ _ _ _, behind p => p.field

/-- The type of the field at the place. -/
def type : {s : Schema} → Place s → FieldType
  | .field _ t _, here => t
  | .field _ _ _, later p => p.type
  | .flatten _ _ _ _, inside p => p.type
  | .flatten _ _ _ _, behind p => p.type

/-- What a record holds at the place. -/
def get : {s : Schema} → (p : Place s) → s.Record → p.type.Carrier
  | .field _ _ _, here, (x, _) => x
  | .field _ _ _, later p, (_, xs) => p.get xs
  | .flatten _ _ _ _, inside p, (x, _) => p.get x
  | .flatten _ _ _ _, behind p, (_, xs) => p.get xs

/-- The record that holds `x` at the place, and all else as before. -/
def set : {s : Schema} → (p : Place s) → s.Record → p.type.Carrier → s.Record
  | .field _ _ _, here, (_, xs), x => (x, xs)
  | .field _ _ _, later p, (y, xs), x => (y, p.set xs x)
  | .flatten _ _ _ _, inside p, (ys, xs), x => (p.set ys x, xs)
  | .flatten _ _ _ _, behind p, (ys, xs), x => (ys, p.set xs x)

section Field

variable {f : Field} {t : FieldType} {name : String} {key : List String} {inner rest : Schema}

@[simp]
theorem field_here : (here : Place (.field f t rest)).field = f := rfl

@[simp]
theorem field_later (p : Place rest) : (later p : Place (.field f t rest)).field = p.field := rfl

@[simp]
theorem field_inside (p : Place inner) :
    (inside p : Place (.flatten name key inner rest)).field = p.field := rfl

@[simp]
theorem field_behind (p : Place rest) :
    (behind p : Place (.flatten name key inner rest)).field = p.field := rfl

end Field

variable {s : Schema}

theorem get_set (p : Place s) (r : s.Record) (x : p.type.Carrier) : p.get (p.set r x) = x := by
  induction p with
  | here => rfl
  | later p ih => exact ih r.2 x
  | inside p ih => exact ih r.1 x
  | behind p ih => exact ih r.2 x

theorem get_set_other {p q : Place s} (other : q ≠ p) (r : s.Record) (x : p.type.Carrier) :
    q.get (p.set r x) = q.get r := by
  induction p with
  | here =>
    cases q with
    | here => exact absurd rfl other
    | later q => rfl
  | later p ih =>
    cases q with
    | here => rfl
    | later q => exact ih (fun same => other (same ▸ rfl)) r.2 x
  | inside p ih =>
    cases q with
    | inside q => exact ih (fun same => other (same ▸ rfl)) r.1 x
    | behind q => rfl
  | behind p ih =>
    cases q with
    | inside q => rfl
    | behind q => exact ih (fun same => other (same ▸ rfl)) r.2 x

theorem ext {r r' : s.Record} (same : ∀ p : Place s, p.get r = p.get r') : r = r' := by
  induction s with
  | nil => rfl
  | field f t rest ih =>
    exact Prod.ext (same here) (ih fun p => same (later p))
  | flatten name key inner rest ihInner ihRest =>
    exact Prod.ext (ihInner fun p => same (inside p)) (ihRest fun p => same (behind p))

theorem get_default (p : Place s) : p.get s.default = p.type.default := by
  induction p with
  | here => rfl
  | later p ih => exact ih
  | inside p ih => exact ih
  | behind p ih => exact ih

/-- A record is changed at one place exactly when it holds there what was set and all else as
before. -/
theorem set_eq_iff (p : Place s) (r r' : s.Record) (x : p.type.Carrier) :
    p.set r x = r' ↔ p.get r' = x ∧ ∀ q, q ≠ p → q.get r' = q.get r := by
  constructor
  · rintro rfl
    exact ⟨p.get_set r x, fun q other => get_set_other other r x⟩
  · rintro ⟨here, elsewhere⟩
    refine ext fun q => ?_
    by_cases same : q = p
    · subst same
      rw [get_set, here]
    · rw [get_set_other same, elsewhere q same]

end Place

namespace Schema

/-- Every place, in the order of declaration. -/
def places : (s : Schema) → List (Place s)
  | nil => []
  | field _ _ rest => .here :: rest.places.map .later
  | flatten _ _ inner rest => inner.places.map .inside ++ rest.places.map .behind

/-- The first place of a name. -/
def declared (s : Schema) (name : String) : Option (Place s) :=
  s.places.find? fun p => p.field.name = name

/-- The first place of a name: one of the outermost record if `own` holds, and otherwise one in the
first flattened record that has the name. -/
def targetFrom (own : Bool) : (s : Schema) → String → Option (Place s)
  | nil, _ => none
  | field f _ rest, name =>
    if own && f.name = name then some .here else (rest.targetFrom own name).map .later
  | flatten _ _ inner rest, name =>
    if !own && inner.accepts name then (inner.targetFrom (inner.owns name) name).map .inside
    else (rest.targetFrom own name).map .behind

/-- The place that a value assigned under a name goes to. -/
def target (s : Schema) (name : String) : Option (Place s) := s.targetFrom (s.owns name) name

/-- In the outermost record, or in the flattened one that the name is declared in, a plain field of
the name stands behind a flattened record that has a field of the name. -/
inductive Overtaken (name : String) : Schema → Prop where
  | later {f : Field} {t : FieldType} {rest : Schema} (other : f.name ≠ name)
      (overtaken : Overtaken name rest) : Overtaken name (.field f t rest)
  | here {flat : String} {key : List String} {inner rest : Schema}
      (has : inner.accepts name = true) (plain : rest.owns name = true) :
      Overtaken name (.flatten flat key inner rest)
  | inside {flat : String} {key : List String} {inner rest : Schema}
      (has : inner.accepts name = true) (overtaken : Overtaken name inner) :
      Overtaken name (.flatten flat key inner rest)
  | behind {flat : String} {key : List String} {inner rest : Schema}
      (lacks : inner.accepts name = false) (overtaken : Overtaken name rest) :
      Overtaken name (.flatten flat key inner rest)

/-! ### Where names lead -/

theorem map_field_places (s : Schema) : s.places.map Place.field = s.fields := by
  induction s with
  | nil => rfl
  | field f t rest ih =>
    rw [places, List.map_cons, List.map_map, fields, ← ih]
    rfl
  | flatten name key inner rest ihInner ihRest =>
    rw [places, List.map_append, List.map_map, List.map_map, fields, ← ihInner, ← ihRest]
    rfl

theorem mem_places {s : Schema} (p : Place s) : p ∈ s.places := by
  induction p with
  | here => exact List.mem_cons_self
  | later p ih => exact List.mem_cons_of_mem _ (List.mem_map_of_mem ih)
  | inside p ih => exact List.mem_append_left _ (List.mem_map_of_mem ih)
  | behind p ih => exact List.mem_append_right _ (List.mem_map_of_mem ih)

theorem mem_fields_iff {s : Schema} {f : Field} : f ∈ s.fields ↔ ∃ p : Place s, p.field = f := by
  rw [← map_field_places, List.mem_map]
  exact exists_congr fun p => and_iff_right (mem_places p)

theorem declared_field (f : Field) (t : FieldType) (rest : Schema) (name : String) :
    (field f t rest).declared name =
      if f.name = name then some .here else (rest.declared name).map .later := by
  rw [declared, places, declared]
  by_cases same : f.name = name
  · rw [List.find?_cons_of_pos (by simp [same]), if_pos same]
  · rw [List.find?_cons_of_neg (by simp [same]), if_neg same, List.find?_map]
    rfl

theorem declared_flatten (flat : String) (key : List String) (inner rest : Schema)
    (name : String) :
    (flatten flat key inner rest).declared name =
      ((inner.declared name).map .inside).or ((rest.declared name).map .behind) := by
  rw [declared, places, declared, declared, List.find?_append, List.find?_map, List.find?_map]
  rfl

theorem target_field (f : Field) (t : FieldType) (rest : Schema) (name : String) :
    (field f t rest).target name =
      if f.name = name then some .here else (rest.target name).map .later := by
  by_cases same : f.name = name
  · simp [target, targetFrom, owns, same]
  · simp [target, targetFrom, owns, same]

theorem target_flatten (flat : String) (key : List String) (inner rest : Schema) (name : String) :
    (flatten flat key inner rest).target name =
      if !rest.owns name && inner.accepts name then (inner.target name).map .inside
      else (rest.target name).map .behind := rfl

theorem isSome_declared (s : Schema) (name : String) :
    (s.declared name).isSome = s.accepts name := by
  induction s with
  | nil => rfl
  | field f t rest ih =>
    rw [declared_field, accepts]
    by_cases same : f.name = name
    · simp [same]
    · simp [same, ih]
  | flatten flat key inner rest ihInner ihRest =>
    rw [declared_flatten, accepts, ← ihInner, ← ihRest, Option.isSome_or, Option.isSome_map,
      Option.isSome_map]

theorem accepts_of_owns {s : Schema} {name : String} (owned : s.owns name = true) :
    s.accepts name = true := by
  induction s with
  | nil => cases owned
  | field f t rest ih =>
    rw [owns, Bool.or_eq_true] at owned
    rw [accepts, Bool.or_eq_true]
    exact owned.imp_right ih
  | flatten flat key inner rest ihInner ihRest =>
    rw [accepts, Bool.or_eq_true]
    exact .inr (ihRest owned)

theorem isSome_target (s : Schema) (name : String) : (s.target name).isSome = s.accepts name := by
  induction s with
  | nil => rfl
  | field f t rest ih =>
    rw [target_field, accepts]
    by_cases same : f.name = name
    · simp [same]
    · simp [same, ih]
  | flatten flat key inner rest ihInner ihRest =>
    rw [target_flatten, accepts]
    cases owned : rest.owns name with
    | true => simp [ihRest, accepts_of_owns owned]
    | false =>
      cases has : inner.accepts name with
      | true => simp [ihInner, has]
      | false => simp [ihRest]

theorem name_of_declared {s : Schema} {name : String} {p : Place s}
    (found : s.declared name = some p) : p.field.name = name := by
  simpa using List.find?_some found

theorem name_of_target {s : Schema} {name : String} {p : Place s}
    (found : s.target name = some p) : p.field.name = name := by
  induction s with
  | nil => cases found
  | field f t rest ih =>
    rw [target_field] at found
    split at found
    case isTrue same =>
      obtain rfl := Option.some.inj found
      exact same
    case isFalse =>
      obtain ⟨q, later, rfl⟩ := Option.map_eq_some_iff.mp found
      exact ih later
  | flatten flat key inner rest ihInner ihRest =>
    rw [target_flatten] at found
    split at found
    · obtain ⟨q, inside, rfl⟩ := Option.map_eq_some_iff.mp found
      exact ihInner inside
    · obtain ⟨q, behind, rfl⟩ := Option.map_eq_some_iff.mp found
      exact ihRest behind

theorem exists_declared {s : Schema} {name : String} (has : s.accepts name = true) :
    ∃ p, s.declared name = some p :=
  Option.isSome_iff_exists.mp ((s.isSome_declared name).trans has)

theorem exists_target {s : Schema} {name : String} (has : s.accepts name = true) :
    ∃ p, s.target name = some p :=
  Option.isSome_iff_exists.mp ((s.isSome_target name).trans has)

theorem accepts_of_target {s : Schema} {name : String} {p : Place s}
    (found : s.target name = some p) : s.accepts name = true := by
  rw [← isSome_target, found, Option.isSome_some]

theorem accepts_field {s : Schema} (p : Place s) : s.accepts p.field.name = true := by
  rw [← isSome_declared, declared, List.find?_isSome]
  exact ⟨p, mem_places p, by simp⟩

theorem declared_eq_none {s : Schema} {name : String} (lacks : s.accepts name = false) :
    s.declared name = none :=
  Option.isNone_iff_eq_none.mp (by rw [← Option.not_isSome, isSome_declared, lacks]; rfl)

/-! ### Assignments -/

theorem assignFrom_eq (own : Bool) (s : Schema) (r : s.Record) (name : String) (v : Value) :
    s.assignFrom own r name v =
      match s.targetFrom own name with
      | none => .ok none
      | some p => (write p.type (p.get r) v).map fun x => some (p.set r x) := by
  induction s generalizing own with
  | nil => rfl
  | field f t rest ih =>
    obtain ⟨x, xs⟩ := r
    rw [assignFrom, targetFrom]
    split
    · rfl
    · rw [ih]
      cases rest.targetFrom own name with
      | none => rfl
      | some p => exact map_map _ _ _
  | flatten flat key inner rest ihInner ihRest =>
    obtain ⟨x, xs⟩ := r
    rw [assignFrom, targetFrom]
    split
    · rw [ihInner]
      cases inner.targetFrom (inner.owns name) name with
      | none => rfl
      | some p => exact map_map _ _ _
    · rw [ihRest]
      cases rest.targetFrom own name with
      | none => rfl
      | some p => exact map_map _ _ _

theorem assign_of_target {s : Schema} {name : String} {p : Place s}
    (found : s.target name = some p) (r : s.Record) (v : Value) :
    s.assign r name v = (write p.type (p.get r) v).map fun x => some (p.set r x) := by
  rw [assign, assignFrom_eq, ← target, found]

/-! ### Names that are overtaken -/

@[simp]
theorem not_overtaken_nil (name : String) : ¬ nil.Overtaken name := nofun

theorem overtaken_field_iff {f : Field} {t : FieldType} {rest : Schema} {name : String} :
    (field f t rest).Overtaken name ↔ f.name ≠ name ∧ rest.Overtaken name := by
  constructor
  · intro overtaken
    cases overtaken with
    | later other overtaken => exact ⟨other, overtaken⟩
  · rintro ⟨other, overtaken⟩
    exact .later other overtaken

theorem overtaken_flatten_iff {flat : String} {key : List String} {inner rest : Schema}
    {name : String} :
    (flatten flat key inner rest).Overtaken name ↔
      if inner.accepts name then rest.owns name = true ∨ inner.Overtaken name
      else rest.Overtaken name := by
  cases has : inner.accepts name with
  | true =>
    rw [if_pos rfl]
    constructor
    · intro overtaken
      cases overtaken with
      | here has plain => exact .inl plain
      | inside has overtaken => exact .inr overtaken
      | behind lacks => rw [has] at lacks; cases lacks
    · rintro (plain | overtaken)
      · exact .here has plain
      · exact .inside has overtaken
  | false =>
    rw [if_neg Bool.false_ne_true]
    constructor
    · intro overtaken
      cases overtaken with
      | here accepts => rw [has] at accepts; cases accepts
      | inside accepts => rw [has] at accepts; cases accepts
      | behind lacks overtaken => exact overtaken
    · exact .behind has

/-- A value assigned under a name goes to the place where the name is declared, unless the name is
overtaken. -/
theorem target_eq_declared_iff (s : Schema) (name : String) :
    s.target name = s.declared name ↔ ¬ s.Overtaken name := by
  induction s with
  | nil => exact iff_of_true rfl nofun
  | field f t rest ih =>
    rw [target_field, declared_field, overtaken_field_iff]
    by_cases same : f.name = name
    · simp [same]
    · have apart : Function.Injective (Option.map (@Place.later f t rest)) :=
        Option.map_injective fun _ _ => Place.later.inj
      rw [if_neg same, if_neg same, apart.eq_iff, ih]
      simp [same]
  | flatten flat key inner rest ihInner ihRest =>
    rw [target_flatten, declared_flatten, overtaken_flatten_iff]
    cases has : inner.accepts name with
    | false =>
      have apart : Function.Injective (Option.map (@Place.behind flat key inner rest)) :=
        Option.map_injective fun _ _ => Place.behind.inj
      rw [declared_eq_none has, Bool.and_false, if_neg Bool.false_ne_true,
        if_neg Bool.false_ne_true, Option.map_none, Option.none_or, apart.eq_iff, ihRest]
    | true =>
      have apart : Function.Injective (Option.map (@Place.inside flat key inner rest)) :=
        Option.map_injective fun _ _ => Place.inside.inj
      -- The name is declared inside, and only a plain field behind can take its values.
      obtain ⟨p, first⟩ := exists_declared has
      rw [first, Option.map_some, Option.some_or, if_pos rfl, ← Option.map_some, ← first]
      cases owned : rest.owns name with
      | false => simp [apart.eq_iff, ihInner]
      | true =>
        obtain ⟨q, plain⟩ := exists_target (accepts_of_owns owned)
        simp [plain, first]

end Schema

end SqlRecords
