/-!
# Cutting and joining texts

Lists in requests are written with commas and keys with dashes. `pieces` cuts at every separator
and keeps empty pieces; `cut` cuts at the first one only.
-/

namespace SqlRecords.Text

/-- The stretches between the separators, empty ones included. -/
def pieces (separator : Char) : List Char → List (List Char)
  | [] => [[]]
  | c :: rest =>
    if c = separator then [] :: pieces separator rest
    else match pieces separator rest with
      | [] => [[c]]
      | piece :: more => (c :: piece) :: more

/-- The texts between the separators of `s`. -/
def split (separator : Char) (s : String) : List String :=
  (pieces separator s.toList).map String.ofList

/-- The characters before and after the first separator. -/
def cut (separator : Char) : List Char → Option (List Char × List Char)
  | [] => none
  | c :: rest =>
    if c = separator then some ([], rest)
    else (cut separator rest).map fun (before, after) => (c :: before, after)

/-- The texts before and after the first separator of `s`. -/
def splitFirst (separator : Char) (s : String) : Option (String × String) :=
  (cut separator s.toList).map fun (before, after) => (String.ofList before, String.ofList after)

/-- What follows `lead` in a text that starts with it. -/
def afterLead (lead s : List Char) : Option (List Char) :=
  match lead, s with
  | [], s => some s
  | _ :: _, [] => none
  | l :: lead, c :: s => if l = c then afterLead lead s else none

/-- `unit` written `count` times with `separator` between. -/
def repeated (unit separator : String) (count : Nat) : String :=
  separator.intercalate (List.replicate count unit)

/-- Equality of texts in which the letters A to Z equal a to z. -/
def sameIgnoringCase (a b : String) : Bool :=
  a.toList.map Char.toLower == b.toList.map Char.toLower

end SqlRecords.Text
