import SqlRecords.Declaration.Name
import SqlRecords.Text.Blank

/-!
# Declarations

A record type is declared by its fields, with annotations on the type and on each field. The items
of the annotations named `mapper` are read in order; of two items of one kind the later one
counts.
-/

namespace SqlRecords

/-- An item of an annotation: a key and its value, which is empty if the key stands alone. -/
structure Item where
  key : String
  value : String := ""
  deriving DecidableEq

/-- An annotation; those of other names are passed over. -/
structure Annotation where
  name : String := "mapper"
  items : List Item
  deriving DecidableEq

/-- Why a declaration is refused. -/
inductive DeclarationError where
  | invalidTable (name part : String) (fault : NameFault)
  | invalidColumn (name : String) (fault : NameFault)
  | noKeyColumns
  | unknownTypeItem
  | unknownFieldItem
  /-- A flattened field has no column of its own. -/
  | flattenedColumn
  | notNamedFields
  deriving DecidableEq

/-- The error message. -/
def DeclarationError.message : DeclarationError → String
  | invalidTable name part fault => "Invalid table name '" ++ name ++ "': " ++ fault.message part
  | invalidColumn name fault => "Invalid column name '" ++ name ++ "': " ++ fault.message name
  | noKeyColumns => "primary_key needs at least one column"
  | unknownTypeItem =>
    "unsupported mapper attribute: expected \x60table\x60 or \x60primary_key\x60"
  | unknownFieldItem =>
    "unsupported mapper attribute: expected \x60name\x60, \x60converter\x60, \x60ignore\x60 or " ++
      "\x60flatten\x60"
  | flattenedColumn => "flatten cannot be combined with name, converter or ignore"
  | notNamedFields => "MappedType can only be derived for structs with named fields"

/-- The items of the annotations that count, in order. -/
def itemsOf (annotations : List Annotation) : List Item :=
  (annotations.filter fun a => a.name = "mapper").flatMap Annotation.items

/-- The column of a name that is well formed. -/
def checkColumn (name : String) : Except DeclarationError String :=
  match nameFault? name with
  | some fault => .error (.invalidColumn name fault)
  | none => .ok name

/-! ### Types -/

/-- What the annotations of a type say. -/
structure TypeMarks where
  table : Option String := none
  key : List String := []
  deriving DecidableEq

/-- The columns of a key with commas between; blank ones are passed over. -/
def keyColumns (s : String) : List String :=
  ((Text.split ',' s).map Text.trim).filter fun column => !column.isEmpty

/-- What one more item says. -/
def TypeMarks.take (m : TypeMarks) (item : Item) : Except DeclarationError TypeMarks :=
  if item.key = "table" then
    match tableFault? item.value with
    | some (part, fault) => .error (.invalidTable item.value part fault)
    | none => .ok { m with table := some item.value }
  else if item.key = "primary_key" then
    let columns := keyColumns item.value
    if columns.isEmpty then .error .noKeyColumns
    else (columns.mapM checkColumn).map fun columns => { m with key := columns }
  else .error .unknownTypeItem

/-- What the annotations of a type say. -/
def readType (annotations : List Annotation) : Except DeclarationError TypeMarks :=
  (itemsOf annotations).foldlM TypeMarks.take {}

/-! ### Fields -/

/-- What the annotations of a field say. -/
structure FieldMarks where
  column : Option String := none
  converter : Option String := none
  ignored : Bool := false
  flattened : Bool := false
  deriving DecidableEq

/-- What one more item says. -/
def FieldMarks.take (m : FieldMarks) (item : Item) : Except DeclarationError FieldMarks :=
  if item.key = "name" then
    (checkColumn item.value).map fun column => { m with column := some column }
  else if item.key = "converter" then .ok { m with converter := some item.value }
  else if item.key = "ignore" then .ok { m with ignored := true }
  else if item.key = "flatten" then .ok { m with flattened := true }
  else .error .unknownFieldItem

/-- A field as it is declared; the type is any text. -/
structure FieldSource where
  name : String
  type : String
  annotations : List Annotation := []

/-- A field whose annotations are read. -/
structure DeclaredField where
  name : String
  type : String
  column : String
  converter : Option String
  ignored : Bool
  flattened : Bool
  deriving DecidableEq

/-- The name that a field answers to: the mark of names that are keywords is dropped. -/
def plainName (name : String) : String :=
  match name.toList with
  | 'r' :: '#' :: rest => String.ofList rest
  | _ => name

/-- The field with its annotations read. Without a column of its own it has that of its name. -/
def readField (f : FieldSource) : Except DeclarationError DeclaredField := do
  let m ← (itemsOf f.annotations).foldlM FieldMarks.take {}
  if m.flattened && (m.column.isSome || m.converter.isSome || m.ignored) then
    throw .flattenedColumn
  let name := plainName f.name
  return ⟨name, f.type, m.column.getD name, m.converter, m.ignored, m.flattened⟩

/-! ### Declarations -/

/-- A declaration of a type. -/
structure DeclarationSource where
  annotations : List Annotation := []
  /-- The fields, if they have names. -/
  fields : Option (List FieldSource)

/-- A declaration whose annotations are read. -/
structure Declaration where
  table : Option String
  key : List String
  fields : List DeclaredField
  deriving DecidableEq

/-- The declaration with its annotations read: first those of the type, then those of the fields
in order. -/
def Declaration.read (d : DeclarationSource) : Except DeclarationError Declaration := do
  let m ← readType d.annotations
  match d.fields with
  | none => throw .notNamedFields
  | some fields => return ⟨m.table, m.key, ← fields.mapM readField⟩

end SqlRecords
