import SqlRecords.Mapping.RecordType
import SqlRecords.Row

/-!
# Mappers

A mapper fills records from rows: each field of the table whose column the row has is converted
and assigned.
-/

namespace SqlRecords

/-- A field table with its converters at hand. -/
structure Mapper where
  type : String
  entries : List (Field × Option Converter)

namespace Mapper

/-- The value that a field is assigned from the raw one of its column. -/
def prepare (type : String) (f : Field) (converter : Option Converter) (raw : Value) :
    Except MappingError Value :=
  match converter with
  | none => .ok raw
  | some c => (c.convert raw).mapError (.converter type f.name c.name)

/-- The record with a field assigned. -/
def put (T : RecordType) (type : String) (r : T.Carrier) (f : Field) (v : Value) :
    Except MappingError T.Carrier :=
  match T.assign r f.name v with
  | .error e => .error (.assignment type f.name f.column e)
  | .ok none => .error (.noAccessor type f.name)
  | .ok (some r) => .ok r

/-- The record after one entry of the table; a column that the row does not have is skipped. -/
def fill (T : RecordType) (type : String) (row : Row) (r : T.Carrier)
    (entry : Field × Option Converter) : Except MappingError T.Carrier :=
  match row.get? entry.1.column with
  | none => .ok r
  | some raw => do
    let v ← prepare type entry.1 entry.2 raw
    put T type r entry.1 v

/-- The record of a row. -/
def mapRow (m : Mapper) (T : RecordType) (row : Row) : Except MappingError T.Carrier := do
  let r ← T.blank
  m.entries.foldlM (fill T m.type row) r

/-- The records of rows. -/
def mapRows (m : Mapper) (T : RecordType) (rows : List Row) :
    Except MappingError (List T.Carrier) := rows.mapM (m.mapRow T)

/-- The type and the number of its fields, on one line. -/
def describe (m : Mapper) : String :=
  "RowMapper \x7b type: \"" ++ m.type ++ "\", fields: " ++ Text.natText m.entries.length ++ " \x7d"

end Mapper

end SqlRecords
