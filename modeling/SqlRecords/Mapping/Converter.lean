import SqlRecords.Text.Pieces
import SqlRecords.Value.Basic
import SqlRecords.Value.Error

/-!
# Converters

A converter rewrites the value of a column before it is assigned to a field.
-/

namespace SqlRecords

/-- A rewriting of values. -/
structure Converter where
  /-- What errors call it. -/
  name : String
  convert : Value → Except ConversionError Value
  /-- Tells one converter from another, also of the same name. -/
  id : String := name

namespace Converter

/-- Leaves values as they are. -/
def unchanged : Converter where
  name := "DefaultConverter"
  convert := .ok

/-- The words that mean yes. -/
def yesWords : List String := ["YES", "OK", "Y", "1", "是"]

/-- The text is a word that means yes; blanks around it do not count. -/
def saysYes (s : String) : Bool := yesWords.any fun word => Text.sameIgnoringCase word (Text.trim s)

/-- The flag that a value stands for: a number is true unless it is zero, a text if it says yes,
and null and all other values are false. -/
def flagOf : Value → Bool
  | .bool b => b
  | .int n => n.val != 0
  | .bigint n => n.val != 0
  | .double x => x != 0
  | .char c => saysYes (String.singleton c)
  | .text s => saysYes s
  | _ => false

/-- Reads columns that hold flags in some form. -/
def flag : Converter where
  name := "BooleanConverter"
  convert v := .ok (.bool (flagOf v))

end Converter

end SqlRecords
