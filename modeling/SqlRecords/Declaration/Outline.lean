import SqlRecords.Declaration.Basic

/-!
# Outlines

What each part of a declared record type goes through, in order: names, columns, and the types of
flattened fields.
-/

namespace SqlRecords

/-- A step of an outline. -/
inductive OutlineStep where
  | text (s : String)
  | flattened (type : String)
  deriving DecidableEq

/-- The steps of each part of a record type. -/
structure Outline where
  table : List OutlineStep
  key : List OutlineStep
  description : List OutlineStep
  acceptance : List OutlineStep
  assignment : List OutlineStep
  values : List OutlineStep
  deriving DecidableEq

namespace Declaration

/-- The fields that are not flattened. -/
def ownFields (d : Declaration) : List DeclaredField := d.fields.filter fun f => !f.flattened

/-- The types of the flattened fields. -/
def flattenedTypes (d : Declaration) : List OutlineStep :=
  (d.fields.filter DeclaredField.flattened).map fun f => .flattened f.type

/-- The steps of each part. The key asks flattened types only when none is declared, and an
assignment asks a flattened type whether it accepts the name before it leaves the name to it. -/
def outline (d : Declaration) : Outline where
  table := d.table.toList.map .text
  key := if d.key.isEmpty then d.flattenedTypes else d.key.map .text
  description := d.fields.flatMap fun f =>
    if f.flattened then [.flattened f.type] else [.text f.name, .text f.column]
  acceptance := (d.ownFields.map fun f => .text f.name) ++ d.flattenedTypes
  assignment := (d.ownFields.map fun f => .text f.name) ++ d.flattenedTypes.flatMap fun t => [t, t]
  values := ((d.ownFields.filter fun f => !f.ignored).map fun f => .text f.column) ++
    d.flattenedTypes

end Declaration

end SqlRecords
