import SqlRecords.Number.Integer
import SqlRecords.Criterion.Key

/-!
# Settings

How a program reaches its database and how it reads requests, and the rules that settings have to
keep. Of two broken rules the first one in the order of `rules` is reported.
-/

namespace SqlRecords

/-- Numbers of ports. -/
abbrev Port := IntType.Carrier .u16

/-- Numbers of connections. -/
abbrev PoolSize := IntType.Carrier .u32

/-- Times in whole seconds. -/
abbrev Seconds := IntType.Carrier .u64

/-- How a program reaches its database. -/
structure DatabaseSettings where
  host : String
  port : Port
  database : String
  username : String
  password : String
  minConnections : PoolSize
  maxConnections : PoolSize
  connectionTimeout : Seconds
  idleTimeout : Seconds
  maxLifetime : Seconds

/-- How a program reads requests and builds statements. -/
structure QuerySettings where
  /-- The letters before the keys of filters. -/
  lead : String := FilterKey.defaultLead
  /-- Statements are shown before they run. -/
  showsSql : Bool := false
  /-- Drafts put a blank behind every phrase. -/
  spaced : Bool := false
  pageSize : I64 := ⟨20, by decide⟩

/-- The settings of a program. -/
structure Settings where
  database : DatabaseSettings
  query : QuerySettings := {}

/-- A rule that settings break. -/
inductive InvalidSettings where
  | emptyHost
  | zeroPort
  | emptyDatabase
  | emptyUsername
  | noConnections
  | connectionsExceeded
  | noTimeout
  | emptyLead
  /-- A dash in the lead would end it too early. -/
  | dashInLead
  | pageSizeNotPositive
  /-- No file is named and none is in its usual place. -/
  | noPath
  deriving DecidableEq

/-- The variable that names the file of settings. -/
def Settings.pathVariable : String := "SQLHAUS_CONFIG"

/-- The usual place of the file of settings. -/
def Settings.defaultPath : String := "./sqlhaus.toml"

/-- The rule as error messages give it. -/
def InvalidSettings.message : InvalidSettings → String
  | emptyHost => "Database host cannot be empty"
  | zeroPort => "Database port cannot be zero"
  | emptyDatabase => "Database name cannot be empty"
  | emptyUsername => "Database username cannot be empty"
  | noConnections => "Database min_connections must be at least 1"
  | connectionsExceeded => "Database min_connections cannot exceed max_connections"
  | noTimeout => "Database connection_timeout_seconds must be at least 1"
  | emptyLead => "Query param_prefix cannot be empty"
  | dashInLead => "Query param_prefix cannot contain '-'"
  | pageSizeNotPositive => "Query default_page_size must be greater than 0"
  | noPath =>
    "Config path must be specified in .env file as " ++ Settings.pathVariable ++ " or in " ++
      Settings.defaultPath ++ " file"

/-- Why there are no settings. -/
inductive SettingsError where
  /-- A file cannot be read. -/
  | unreadable
  /-- The file of settings is no TOML, or lacks a setting, or has one of a wrong type. -/
  | malformed
  /-- The file of variables is malformed. -/
  | malformedVariables
  | invalid (cause : InvalidSettings)
  deriving DecidableEq

/-- The error message; what is wrong inside a file is not told. -/
def SettingsError.message : SettingsError → String
  | unreadable => "IO error"
  | malformed => "TOML parsing error"
  | malformedVariables => "The file of variables is malformed"
  | invalid cause => "Invalid configuration: " ++ cause.message

namespace DatabaseSettings

/-- The address under which the database is reached. -/
def address (d : DatabaseSettings) : String :=
  "mysql://" ++ d.username ++ ":" ++ d.password ++ "@" ++ d.host ++ ":" ++
    Text.intText d.port.val ++ "/" ++ d.database

/-- The rules, each with whether it is broken. -/
def rules (d : DatabaseSettings) : List (Bool × InvalidSettings) :=
  [(d.host.isEmpty, .emptyHost), (d.port.val = 0, .zeroPort),
    (d.database.isEmpty, .emptyDatabase), (d.username.isEmpty, .emptyUsername),
    (d.minConnections.val = 0, .noConnections),
    (d.minConnections.val > d.maxConnections.val, .connectionsExceeded),
    (d.connectionTimeout.val = 0, .noTimeout)]

end DatabaseSettings

/-- The rules, each with whether it is broken. -/
def QuerySettings.rules (q : QuerySettings) : List (Bool × InvalidSettings) :=
  [(q.lead.isEmpty, .emptyLead), (q.lead.toList.contains '-', .dashInLead),
    (q.pageSize.val ≤ 0, .pageSizeNotPositive)]

/-- The settings if they keep every rule. -/
def Settings.validate (s : Settings) : Except SettingsError Unit :=
  match (s.database.rules ++ s.query.rules).find? (·.1) with
  | some (_, cause) => .error (.invalid cause)
  | none => .ok ()

end SqlRecords
