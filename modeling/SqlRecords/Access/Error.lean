import SqlRecords.Mapping.Error
import SqlRecords.Settings.Basic
import SqlRecords.Statement.Error

/-!
# Access errors

Why an operation on a database fails.
-/

namespace SqlRecords

/-- Why an operation on a database fails. -/
inductive AccessError where
  /-- The statement cannot be put together. -/
  | statement (source : StatementError)
  /-- A row does not become a record. -/
  | mapping (source : MappingError)
  /-- A single value is not of the type asked for. -/
  | conversion (source : ConversionError)
  | settings (source : SettingsError)
  /-- The database answers with something else than asked for. -/
  | unexpected (reason : String)
  deriving DecidableEq

/-- The error message. -/
def AccessError.message : AccessError → String
  | statement source => "Query error: " ++ source.message
  | mapping source => "Mapping error: " ++ source.message
  | conversion source => "Value error: " ++ source.message
  | settings source => "Configuration error: " ++ source.message
  | unexpected reason => "Unexpected result: " ++ reason

end SqlRecords
