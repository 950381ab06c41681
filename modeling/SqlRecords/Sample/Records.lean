import SqlRecords.Mapping.Schema

/-!
# Sample record types

Declared record types with plain, ignored, converted and flattened fields, among them types in
which names or columns clash, and types that are written by hand and refuse what declared types
never refuse.
-/

namespace SqlRecords.Sample

/-! ### Schemas -/

/-- A field of a column of the same name. -/
def plain (name : String) (type : FieldType) (rest : Schema) : Schema :=
  .field { name := name, column := name } type rest

/-- A field of a column of another name. -/
def renamed (name column : String) (type : FieldType) (rest : Schema) : Schema :=
  .field { name := name, column := column } type rest

/-- A field that is not written to tables. -/
def ignored (name : String) (type : FieldType) (rest : Schema) : Schema :=
  .field { name := name, column := name, ignored := true } type rest

/-- A field with a converter. -/
def converted (name : String) (c : Converter) (type : FieldType) (rest : Schema) : Schema :=
  .field { name := name, column := name, converter := some c } type rest

/-- A field that holds a flag in some form. -/
def flagged (name : String) (type : FieldType) (rest : Schema) : Schema :=
  converted name .flag type rest

/-- Short integers. -/
def i32 : BaseType := .int .i32

/-- Long integers. -/
def i64 : BaseType := .int .i64

/-! ### Declared types -/

def user : DeclaredType where
  name := "User"
  table := some "m_user"
  key := ["id"]
  schema :=
    plain "id" (.optional i64) <| renamed "name" "user_name" (.required .text) <|
    flagged "enabled" (.required .bool) <| plain "email" (.optional .text) <|
    ignored "display" (.required .text) .nil

def audit : DeclaredType where
  name := "Audit"
  schema := plain "created_by" (.required .text) <| plain "version" (.optional i32) .nil

def member : DeclaredType where
  name := "Member"
  table := some "m_member"
  key := ["id"]
  schema :=
    plain "id" (.required i64) <| renamed "name" "user_name" (.required .text) <|
    flagged "enabled" (.required .bool) <| ignored "label" (.required .text) <|
    audit.flattenedAs "audit" .nil

def memberView : DeclaredType where
  name := "MemberView"
  schema := member.flattenedAs "user" <| plain "role" (.required .text) .nil

def note : DeclaredType where
  name := "Note"
  schema := plain "body" (.required .text) .nil

def tenant : DeclaredType where
  name := "Tenant"
  table := some "shop.tenants"
  key := ["tenant_id", "code"]
  schema :=
    plain "memo" (.optional .text) <| plain "code" (.required .text) <|
    plain "amount" (.required .double) <| plain "tenant_id" (.required i64) <|
    plain "opened" (.optional .date) .nil

/-- The key is no field. -/
def badKey : DeclaredType where
  name := "BadKey"
  table := some "t_bad"
  key := ["missing"]
  schema := plain "id" (.required i64) <| plain "name" (.required .text) .nil

def keyOnly : DeclaredType where
  name := "KeyOnly"
  key := ["id"]
  schema := plain "id" (.optional i64) .nil

/-- The key is not written to tables. -/
def hiddenKey : DeclaredType where
  name := "HiddenKey"
  key := ["id"]
  schema := ignored "id" (.required i64) <| plain "name" (.required .text) .nil

def blank : DeclaredType where
  name := "Blank"
  schema := .nil

def stamp : DeclaredType where
  name := "Stamp"
  schema := renamed "version" "ver" (.optional i32) <| plain "stamped" (.optional .dateTime) .nil

/-- Three records have a field `version`, and two of its columns differ. -/
def clash : DeclaredType where
  name := "Clash"
  table := some "t_clash"
  schema :=
    audit.flattenedAs "audit" <| plain "version" (.required .text) <|
    stamp.flattenedAs "stamp" <| keyOnly.flattenedAs "key" .nil

def twoFlat : DeclaredType where
  name := "TwoFlat"
  schema :=
    audit.flattenedAs "audit" <| stamp.flattenedAs "stamp" <| tenant.flattenedAs "tenant" <|
    keyOnly.flattenedAs "key" .nil

/-- Two fields share a column, which is the key. -/
def rawNames : DeclaredType where
  name := "RawNames"
  table := some "t_raw"
  key := ["type"]
  schema :=
    plain "type" (.required .text) <| renamed "from" "FROM_" (.optional .text) <|
    renamed "kind" "type" (.required .value) .nil

def flags : DeclaredType where
  name := "Flags"
  schema :=
    flagged "a" (.required .bool) <| flagged "b" (.optional .bool) <|
    flagged "c" (.required .text) <| flagged "d" (.required i64) <|
    converted "e" .unchanged (.required i32) <|
    .field { name := "f", column := "f_date", converter := some .flag } (.optional .date) .nil

/-- Every type that a field may have. -/
def everything : DeclaredType where
  name := "Everything"
  table := some "t_every"
  schema :=
    plain "i8" (.required (.int .i8)) <| plain "i16" (.required (.int .i16)) <|
    plain "i32" (.required (.int .i32)) <| plain "i64" (.required (.int .i64)) <|
    plain "u8" (.required (.int .u8)) <| plain "u16" (.required (.int .u16)) <|
    plain "u32" (.required (.int .u32)) <| plain "u64" (.required (.int .u64)) <|
    ignored "usize" (.required (.int .usize)) <| plain "f32" (.required .single) <|
    plain "f64" (.required .double) <| plain "bool" (.required .bool) <|
    plain "string" (.required .text) <| plain "char" (.required .char) <|
    plain "date" (.required .date) <| plain "datetime" (.required .dateTime) <|
    plain "utc" (.required .utc) <| plain "uuid" (.required .uuid) <|
    plain "json" (.required .json) <| plain "bytes" (.required .bytes) <|
    plain "any" (.required .value) <| plain "o_u64" (.optional (.int .u64)) <|
    plain "o_f32" (.optional .single) <| plain "o_char" (.optional .char) <|
    plain "o_utc" (.optional .utc) <| plain "o_json" (.optional .json) <|
    plain "o_bytes" (.optional .bytes) .nil

/-- The declared sample types. -/
def declared : List DeclaredType :=
  [user, audit, member, memberView, note, tenant, badKey, keyOnly, hiddenKey, blank, stamp, clash,
    twoFlat, rawNames, flags, everything]

/-! ### Types written by hand -/

/-- Describes `locked`, which cannot be written, and `open` twice. -/
def readOnly : RecordType where
  Carrier := I64
  name := "ReadOnly"
  fields :=
    [{ name := "open", column := "open" }, { name := "locked", column := "locked" },
      { name := "open", column := "open2", ignored := true }]
  default := IntType.zero .i64
  assign _ name v :=
    if name = "open" then (BaseType.readInt .i64 v).map some else .ok none
  values n := [("open", .bigint n)]

/-- Has no blank record. -/
def unbuildable : RecordType where
  Carrier := Unit
  name := "Unbuildable"
  fields := []
  default := ()
  blank := .error (.instantiation "Unbuildable" "no public constructor")
  assign _ _ _ := .ok none
  values _ := []

/-- Fails on every value. -/
def failing : Converter where
  name := "FailingConverter"
  convert v := .error (.parse v.asText "flag" (.other "unsupported"))

/-- Has a field whose converter fails. -/
def strict : RecordType where
  Carrier := I64 × Bool
  name := "Strict"
  fields :=
    [{ name := "id", column := "id", converter := some .unchanged },
      { name := "flag", column := "strict_flag", converter := some failing }]
  default := (IntType.zero .i64, false)
  assign r name v :=
    if name = "id" then (BaseType.readInt .i64 v).map fun id => some (id, r.2)
    else if name = "flag" then (BaseType.readBool v).map fun flag => some (r.1, flag)
    else .ok none
  values r := [("id", .bigint r.1), ("strict_flag", .bool r.2)]

end SqlRecords.Sample
