import SqlRecords.Mapping.Mapper
import SqlRecords.Memo

/-!
# The registry

The registry remembers field tables and converters, each under its id, so that each is made once.
-/

namespace SqlRecords

/-- Field tables and converters that are already made. -/
structure Registry where
  tables : Memo String FieldTable := { label := "field-tables" }
  converters : Memo String Converter := { label := "converters" }

/-- How often the two parts of a registry were asked. -/
structure RegistryStats where
  tables : MemoStats
  converters : MemoStats

namespace Registry

/-- The field table of a type. -/
def fieldTable (r : Registry) (T : RecordType) : FieldTable × Registry :=
  let (t, tables) := r.tables.getOrInsert T.id (.ofType T)
  (t, { r with tables })

/-- The shared converter of the id. -/
def converter (r : Registry) (c : Converter) : Converter × Registry :=
  let (c, converters) := r.converters.getOrInsert c.id c
  (c, { r with converters })

/-- The fields together with their shared converters. -/
def resolve (r : Registry) : List Field → List (Field × Option Converter) × Registry
  | [] => ([], r)
  | f :: rest =>
    match f.converter with
    | none =>
      let (entries, r) := r.resolve rest
      ((f, none) :: entries, r)
    | some c =>
      let (c, r) := r.converter c
      let (entries, r) := r.resolve rest
      ((f, some c) :: entries, r)

/-- The mapper of a type. -/
def mapper (r : Registry) (T : RecordType) : Mapper × Registry :=
  let (t, r) := r.fieldTable T
  let (entries, r) := r.resolve t.entries
  (⟨t.type, entries⟩, r)

/-- The counts. -/
def stats (r : Registry) : RegistryStats := ⟨r.tables.stats, r.converters.stats⟩

/-- The registry without tables and converters. -/
def clear (r : Registry) : Registry := ⟨r.tables.clear, r.converters.clear⟩

end Registry

end SqlRecords
