import SqlRecords.Number.Integer
import SqlRecords.Text.Pieces

/-!
# Names in declarations

Tables and columns are named by identifiers, so that a name can stand in a statement as it is.
A table may be named within its database, with a dot.
-/

namespace SqlRecords

/-- What is wrong with an identifier. -/
inductive NameFault where
  | empty
  | tooLong (size : Nat)
  | badStart
  | badCharacter
  deriving DecidableEq

/-- The fault of the identifier `name` as error messages give it. -/
def NameFault.message (name : String) : NameFault → String
  | empty => "Name cannot be empty"
  | tooLong size =>
    "Name '" ++ name ++ "' is too long: " ++ Text.natText size ++ " characters (max 64)"
  | badStart => "Name '" ++ name ++ "' must start with a letter or underscore"
  | badCharacter =>
    "Name '" ++ name ++ "' contains invalid characters: only alphanumeric characters and " ++
      "underscores are allowed"

/-- The number of bytes that an identifier may have. -/
def nameLimit : Nat := 64

/-- What is wrong with an identifier, if anything. Letters and digits are those of ASCII. -/
def nameFault? (name : String) : Option NameFault :=
  match name.toList with
  | [] => some .empty
  | c :: rest =>
    if nameLimit < name.utf8ByteSize then some (.tooLong name.utf8ByteSize)
    else if !(c.isAlpha || c = '_') then some .badStart
    else if !(rest.all fun c => c.isAlphanum || c = '_') then some .badCharacter
    else none

/-- The first part of a table name at fault, and its fault. -/
def tableFault? (name : String) : Option (String × NameFault) :=
  (Text.split '.' name).findSome? fun part => (nameFault? part).map fun fault => (part, fault)

end SqlRecords
