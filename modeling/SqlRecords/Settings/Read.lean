import SqlRecords.Settings.Basic
import SqlRecords.Toml.Reader

/-!
# Settings in TOML

The settings of a file are two tables of fields, of which the second and each of its fields may be
missing. Names that are no fields are passed over. In place of a table an array may give the
fields in their order.
-/

namespace SqlRecords

/-- The fields of a group of settings: by name, or by position. -/
inductive SettingsSource where
  | byName (entries : Toml.Entries)
  | inOrder (items : List Toml)

namespace SettingsSource

/-- The source that a value is. -/
def ofToml? : Toml → Option SettingsSource
  | .table _ entries => some (byName entries)
  | .array items => some (inOrder items)
  | .tables last earlier =>
    some (inOrder ((last :: earlier).reverse.map fun entries => .table .header entries))
  | _ => none

/-- The value of the field of a name, which is the field at a position. -/
def value? (source : SettingsSource) (position : Nat) (name : String) : Option Toml :=
  match source with
  | byName entries => Toml.get? entries name
  | inOrder items => items[position]?

/-- The text of a field. -/
def text? : Toml → Option String
  | .string s => some s
  | _ => none

/-- The truth value of a field. -/
def bool? : Toml → Option Bool
  | .bool b => some b
  | _ => none

/-- The integer of a field, in the range of a type. -/
def int? (t : IntType) : Toml → Option t.Carrier
  | .integer n => t.ofInt? n
  | _ => none

end SettingsSource

namespace Settings

variable {α : Type}

/-- A field that has to be there. -/
def required (source : SettingsSource) (position : Nat) (name : String) (read : Toml → Option α) :
    Option α := (source.value? position name).bind read

/-- A field that has a default. -/
def optional (source : SettingsSource) (position : Nat) (name : String) (read : Toml → Option α)
    (default : α) : Option α :=
  match source.value? position name with
  | none => some default
  | some v => read v

/-- How the database is reached. -/
def databaseOf (v : Toml) : Option DatabaseSettings := do
  let source ← SettingsSource.ofToml? v
  let host ← required source 0 "host" SettingsSource.text?
  let port ← required source 1 "port" (SettingsSource.int? .u16)
  let database ← required source 2 "database" SettingsSource.text?
  let username ← required source 3 "username" SettingsSource.text?
  let password ← required source 4 "password" SettingsSource.text?
  let minConnections ← required source 5 "min_connections" (SettingsSource.int? .u32)
  let maxConnections ← required source 6 "max_connections" (SettingsSource.int? .u32)
  let connectionTimeout ← required source 7 "connection_timeout_seconds" (SettingsSource.int? .u64)
  let idleTimeout ← required source 8 "idle_timeout_seconds" (SettingsSource.int? .u64)
  let maxLifetime ← required source 9 "max_lifetime_seconds" (SettingsSource.int? .u64)
  some { host, port, database, username, password, minConnections, maxConnections,
         connectionTimeout, idleTimeout, maxLifetime }

/-- How requests are read. -/
def queryOf (v : Toml) : Option QuerySettings := do
  let source ← SettingsSource.ofToml? v
  let d : QuerySettings := {}
  let lead ← optional source 0 "param_prefix" SettingsSource.text? d.lead
  let showsSql ← optional source 1 "show_sql" SettingsSource.bool? d.showsSql
  let spaced ← optional source 2 "append_whitespace" SettingsSource.bool? d.spaced
  let pageSize ← optional source 3 "default_page_size" (SettingsSource.int? .i64) d.pageSize
  some { lead, showsSql, spaced, pageSize }

/-- The settings of a document. -/
def ofToml? (document : Toml.Entries) : Option Settings := do
  let source := SettingsSource.byName document
  let database ← required source 0 "database" databaseOf
  let query ← optional source 1 "query" queryOf {}
  some { database, query }

/-- The settings of a text, which have to keep the rules. -/
def ofText (s : String) : Except SettingsError Settings :=
  match (Toml.read? s).bind ofToml? with
  | none => .error .malformed
  | some settings => do
    settings.validate
    return settings

end Settings

end SqlRecords
