import SqlRecords.Mapping.Converter
import SqlRecords.Mapping.Error

/-!
# Record types

A record type describes the fields of its records and says how one is written and how all are
read. The field table of a type is its description with each field once.
-/

namespace SqlRecords

/-- A field as the mapping sees it. -/
structure Field where
  name : String
  /-- The column that the field is filled from. -/
  column : String
  converter : Option Converter := none
  /-- The field is filled from rows, but left out of what is written to a table. -/
  ignored : Bool := false

/-- A type of records. -/
structure RecordType where
  /-- The records. -/
  Carrier : Type
  /-- What errors call it. -/
  name : String
  /-- Tells one type from another, also of the same name. -/
  id : String := name
  /-- The table that the records belong to, if the type says so. -/
  table : Option String := none
  /-- The columns of the primary key. -/
  key : List String := []
  /-- Every field, ignored ones included. -/
  fields : List Field
  default : Carrier
  /-- The record that columns are written into. -/
  blank : Except MappingError Carrier := .ok default
  /-- A field of this name can be written. -/
  accepts : String → Bool := fun name => fields.any fun f => f.name = name
  /-- The record with a field set to a value; nothing if there is no such field. -/
  assign : Carrier → String → Value → Except ConversionError (Option Carrier)
  /-- The columns that are written to a table, with their values. -/
  values : Carrier → List (String × Value)

/-- The fields of a record type, each name once. -/
structure FieldTable where
  type : String
  entries : List Field

namespace FieldTable

/-- The fields of a list that are the first of their name; names in `seen` are taken. -/
def firstsFrom (seen : List String) : List Field → List Field
  | [] => []
  | f :: rest =>
    if f.name ∈ seen then firstsFrom seen rest else f :: firstsFrom (f.name :: seen) rest

/-- The table of a type: a field described twice keeps its first description. -/
def ofType (T : RecordType) : FieldTable := ⟨T.name, firstsFrom [] T.fields⟩

/-- The number of fields. -/
def size (t : FieldTable) : Nat := t.entries.length

/-- The field of a name. -/
def get? (t : FieldTable) (name : String) : Option Field :=
  t.entries.find? fun f => f.name = name

/-- The column that a field is filled from. -/
def column? (t : FieldTable) (name : String) : Option String := (t.get? name).map Field.column

end FieldTable

end SqlRecords
