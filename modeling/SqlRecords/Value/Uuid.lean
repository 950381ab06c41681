import SqlRecords.Text.Hex
import SqlRecords.Text.Pieces

/-!
# Identifiers of sixteen bytes

A uuid is written as five groups of hexadecimal digits with dashes. It is read from that form, the
same in braces or behind `urn:uuid:`, and from its 32 digits alone.
-/

namespace SqlRecords

/-- Sixteen bytes. -/
structure Uuid where
  bytes : List UInt8
  size : bytes.length = 16
  deriving DecidableEq

namespace Uuid

/-- The identifier with these bytes, if they are sixteen. -/
def ofBytes? (bytes : List UInt8) : Option Uuid :=
  if h : bytes.length = 16 then some ⟨bytes, h⟩ else none

/-- Sixteen zeros. -/
def nil : Uuid := ⟨List.replicate 16 0, by simp⟩

instance : Inhabited Uuid := ⟨nil⟩

/-- The groups of bytes between the dashes. -/
def groups (u : Uuid) : List (List UInt8) :=
  [u.bytes.take 4, (u.bytes.drop 4).take 2, (u.bytes.drop 6).take 2, (u.bytes.drop 8).take 2,
    u.bytes.drop 10]

/-- The groups in lower-case digits with dashes between. -/
def text (u : Uuid) : String :=
  "-".intercalate (u.groups.map fun g => String.ofList (Text.hexOfBytes g))

/-- The identifier of 32 digits. -/
def ofDigits? (s : List Char) : Option Uuid := (Text.bytesOfHex? s).bind ofBytes?

/-- The identifier of five groups of digits with dashes between. -/
def ofGroups? (s : List Char) : Option Uuid :=
  let parts := Text.pieces '-' s
  if parts.map List.length = [8, 4, 4, 4, 12] then ofDigits? parts.flatten else none

/-- A text without the braces around it. -/
def unbraced? (s : List Char) : Option (List Char) :=
  match s, s.reverse with
  | '{' :: rest, '}' :: _ => some rest.dropLast
  | _, _ => none

/-- What stands before an identifier that is written as a name. -/
def urnLead : List Char := "urn:uuid:".toList

/-- A text without `urn:uuid:` before it, each letter of which may be small or capital. -/
def afterUrn? (s : List Char) : Option (List Char) :=
  if (s.take urnLead.length).map Char.toLower = urnLead then some (s.drop urnLead.length) else none

/-- The identifier of a text in any of the four forms. -/
def ofChars? (s : List Char) : Option Uuid :=
  (ofDigits? s).or <| (ofGroups? s).or <|
    ((unbraced? s).bind ofGroups?).or ((afterUrn? s).bind ofGroups?)

end Uuid

end SqlRecords
