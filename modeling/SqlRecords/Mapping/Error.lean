import SqlRecords.Value.Error

/-!
# Mapping errors

Why a row cannot become a record.
-/

namespace SqlRecords

/-- Why a row does not become a record of the type `type`. -/
inductive MappingError where
  /-- There is no blank record to fill. -/
  | instantiation (type reason : String)
  /-- The type describes a field that cannot be written. -/
  | noAccessor (type field : String)
  | assignment (type field column : String) (source : ConversionError)
  | converter (type field name : String) (source : ConversionError)
  deriving DecidableEq

/-- The error message. -/
def MappingError.message : MappingError → String
  | instantiation type reason => "Cannot instantiate " ++ type ++ ": " ++ reason
  | noAccessor type field => "No writable field '" ++ field ++ "' on " ++ type
  | assignment type field column source =>
    "Cannot assign column '" ++ column ++ "' to " ++ type ++ "." ++ field ++ ": " ++ source.message
  | converter type field name source =>
    "Converter " ++ name ++ " failed for " ++ type ++ "." ++ field ++ ": " ++ source.message

end SqlRecords
