import SqlRecords.Value.Error

/-!
# Statement errors

Why a statement or its parameters cannot be put together.
-/

namespace SqlRecords

/-- An argument that no statement can be made from. -/
inductive InvalidArgument where
  /-- A range has two ends, and neither more nor fewer values. -/
  | rangeEnds (field : String) (count : Nat)
  | emptyList (name : String)
  | noInsertColumns
  | noColumns
  | pageSize (size : Int)
  | pageOutOfRange (page size : Int)
  | noKey (type : String)
  | unmappedKey (keys : List String)
  | listInPlace
  deriving DecidableEq

/-- Texts in quotes between brackets. -/
def bracketed (texts : List String) : String :=
  "[" ++ ", ".intercalate (texts.map fun t => "\"" ++ t ++ "\"") ++ "]"

/-- What is wrong with the argument. -/
def InvalidArgument.message : InvalidArgument → String
  | rangeEnds field count =>
    "between must have two values, '" ++ field ++ "' has " ++ Text.natText count
  | emptyList name => "named list parameter '" ++ name ++ "' is empty"
  | noInsertColumns => "insert column list can not be empty"
  | noColumns => "Column list can not be empty."
  | pageSize size => "page size must be greater than 0, got " ++ Text.intText size
  | pageOutOfRange page size =>
    "page " ++ Text.intText page ++ " of size " ++ Text.intText size ++ " is out of range"
  | noKey type => "no primary key declared on " ++ type
  | unmappedKey keys => "primary key columns " ++ bracketed keys ++ " are not mapped fields"
  | listInPlace => "a list cannot be bound to a single placeholder; expand it first"

/-- Why a statement cannot be put together. -/
inductive StatementError where
  | unknownType (code : String)
  | unknownOperator (code : String)
  | malformedKey (key : String)
  | conversion (key : String) (source : ConversionError)
  | invalidArgument (cause : InvalidArgument)
  | argumentMismatch (keys values : Nat)
  | missingParameter (name : String)
  deriving DecidableEq

/-- The error message. -/
def StatementError.message : StatementError → String
  | unknownType code => "Unknown type code: " ++ code
  | unknownOperator code => "Unknown operator: " ++ code
  | malformedKey key => "Malformed query key: " ++ key
  | conversion key source => "Conversion error for '" ++ key ++ "': " ++ source.message
  | invalidArgument cause => "Invalid argument: " ++ cause.message
  | argumentMismatch keys values =>
    "Key count[" ++ Text.natText keys ++ "] and value count[" ++ Text.natText values ++
      "] is inequality"
  | missingParameter name => "Missing named parameter: " ++ name

end SqlRecords
