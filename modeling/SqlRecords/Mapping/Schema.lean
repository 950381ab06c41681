import SqlRecords.Mapping.RecordType
import SqlRecords.Value.FieldType

/-!
# Schemas

A schema lists the fields of a record, and the records whose fields count as its own: those are
flattened into it, to any depth. Every schema makes a record type. Names of the outer record go
before names of a flattened one.
-/

namespace SqlRecords

/-- The fields of a record, in order. -/
inductive Schema where
  | nil
  | field (f : Field) (type : FieldType) (rest : Schema)
  /-- The record in field `name` has the schema `inner` and declares the primary key `key`. -/
  | flatten (name : String) (key : List String) (inner rest : Schema)

namespace Schema

/-- The records of a schema. -/
def Record : Schema → Type
  | nil => Unit
  | field _ t rest => t.Carrier × rest.Record
  | flatten _ _ inner rest => inner.Record × rest.Record

/-- The record whose fields hold what they hold by default. -/
def default : (s : Schema) → s.Record
  | nil => ()
  | field _ t rest => (t.default, rest.default)
  | flatten _ _ inner rest => (inner.default, rest.default)

/-- Every field, flattened ones in the place of their record. -/
def fields : Schema → List Field
  | nil => []
  | field f _ rest => f :: rest.fields
  | flatten _ _ inner rest => inner.fields ++ rest.fields

/-- The primary key of the first flattened record that has one. -/
def inheritedKey : Schema → List String
  | nil => []
  | field _ _ rest => rest.inheritedKey
  | flatten _ key inner rest =>
    let own := if key.isEmpty then inner.inheritedKey else key
    if own.isEmpty then rest.inheritedKey else own

/-- The outermost record has a field of this name. -/
def owns : Schema → String → Bool
  | nil, _ => false
  | field f _ rest, name => f.name = name || rest.owns name
  | flatten _ _ _ rest, name => rest.owns name

/-- The record, or one flattened into it, has a field of this name. -/
def accepts : Schema → String → Bool
  | nil, _ => false
  | field f _ rest, name => f.name = name || rest.accepts name
  | flatten _ _ inner rest, name => inner.accepts name || rest.accepts name

/-- What a field holds after a value is assigned to it; null leaves alone a field that cannot
hold it. -/
def write (t : FieldType) (old : t.Carrier) (v : Value) : Except ConversionError t.Carrier :=
  if v.isNull && !t.acceptsNull then .ok old else t.read v

/-- Sets the first field of a name: one of the outermost record if `own` holds, and one in the
first flattened record that has such a field otherwise. -/
def assignFrom (own : Bool) :
    (s : Schema) → s.Record → String → Value → Except ConversionError (Option s.Record)
  | nil, _, _, _ => .ok none
  | field f t rest, (x, xs), name, v =>
    if own && f.name = name then (write t x v).map fun x => some (x, xs)
    else (rest.assignFrom own xs name v).map fun r => r.map fun xs => (x, xs)
  | flatten _ _ inner rest, (x, xs), name, v =>
    if !own && inner.accepts name then
      (inner.assignFrom (inner.owns name) x name v).map fun r => r.map fun x => (x, xs)
    else (rest.assignFrom own xs name v).map fun r => r.map fun xs => (x, xs)

/-- The record with a field set to a value; nothing if there is no such field. -/
def assign (s : Schema) (r : s.Record) (name : String) (v : Value) :
    Except ConversionError (Option s.Record) := s.assignFrom (s.owns name) r name v

/-- The columns of the outermost record, with their values. -/
def ownValues : (s : Schema) → s.Record → List (String × Value)
  | nil, _ => []
  | field f t rest, (x, xs) =>
    if f.ignored then rest.ownValues xs else (f.column, t.write x) :: rest.ownValues xs
  | flatten _ _ _ rest, (_, xs) => rest.ownValues xs

/-- The columns of the flattened records, with their values. -/
def innerValues : (s : Schema) → s.Record → List (String × Value)
  | nil, _ => []
  | field _ _ rest, (_, xs) => rest.innerValues xs
  | flatten _ _ inner rest, (x, xs) =>
    (inner.ownValues x ++ inner.innerValues x) ++ rest.innerValues xs

/-- The columns that are written to a table, with their values: own ones first. -/
def values (s : Schema) (r : s.Record) : List (String × Value) := s.ownValues r ++ s.innerValues r

end Schema

/-- A record type that is declared by its schema. -/
structure DeclaredType where
  name : String
  table : Option String := none
  /-- The declared primary key; without one, a flattened record's counts. -/
  key : List String := []
  schema : Schema

namespace DeclaredType

/-- The primary key: the declared one, or that of a flattened record. -/
def primaryKey (d : DeclaredType) : List String :=
  if d.key.isEmpty then d.schema.inheritedKey else d.key

/-- The schema `rest` behind a field `field` that holds a record of the type, flattened. -/
def flattenedAs (d : DeclaredType) (field : String) (rest : Schema) : Schema :=
  .flatten field d.key d.schema rest

/-- The record type. -/
def toRecordType (d : DeclaredType) : RecordType where
  Carrier := d.schema.Record
  name := d.name
  table := d.table
  key := d.primaryKey
  fields := d.schema.fields
  default := d.schema.default
  accepts := d.schema.accepts
  assign := d.schema.assign
  values := d.schema.values

end DeclaredType

end SqlRecords
