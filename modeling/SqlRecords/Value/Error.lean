import SqlRecords.Number.DoubleText

/-!
# Conversion errors

Why a value cannot become a field of some type.
-/

namespace SqlRecords

/-- What is wrong with a text or number that should be read as some type. -/
inductive ReadingFault where
  | integer (fault : Text.IntegerFault)
  | double (fault : Text.DoubleFault)
  | notIntegral
  | outOfRange
  /-- A truth value written otherwise than `true`, `false`, `1` or `0`. -/
  | notTruthValue
  /-- A request value that is none of the words for yes and no. -/
  | notYesOrNo
  | notOneCharacter
  | notDate
  | notDateOrTime
  | unknownCode
  | malformed
  /-- A reason of a converter's own. -/
  | other (reason : String)
  deriving DecidableEq

/-- The reason as error messages give it. -/
def ReadingFault.message : ReadingFault → String
  | integer fault => fault.message
  | double fault => fault.message
  | notIntegral => "not an integral value"
  | outOfRange => "out of range"
  | notTruthValue => "expected true/false/1/0"
  | notYesOrNo => "unrecognized boolean"
  | notOneCharacter => "expected a single character"
  | notDate => "expected yyyy-MM-dd"
  | notDateOrTime => "expected yyyy-MM-dd[ HH:mm:ss] or RFC 3339"
  | unknownCode => "unknown code"
  | malformed => "the text is malformed"
  | other reason => reason

/-- Why a conversion fails. -/
inductive ConversionError where
  /-- No value of the kind `found` becomes a `expected`. -/
  | incompatible (expected found : String)
  | parse (value target : String) (fault : ReadingFault)
  /-- Null, or nothing but blanks, where a value is needed. -/
  | empty (target : String)
  deriving DecidableEq

/-- The error message. -/
def ConversionError.message : ConversionError → String
  | incompatible expected found => s!"Incompatible value: expected {expected}, found {found}"
  | parse value target fault =>
    "Cannot parse '" ++ value ++ "' as " ++ target ++ ": " ++ fault.message
  | empty target => s!"Empty value cannot be converted to {target}"

end SqlRecords
