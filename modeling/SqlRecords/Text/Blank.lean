/-!
# Blank characters

Request values and column texts are read after trimming. A character is blank when Unicode gives
it the property White_Space; the zero-width characters are not blank.
-/

namespace SqlRecords.Text

/-- The characters with the Unicode property White_Space. -/
def isBlank (c : Char) : Bool :=
  let n := c.toNat
  (0x09 ≤ n && n ≤ 0x0D) || n == 0x20 || n == 0x85 || n == 0xA0 || n == 0x1680 ||
    (0x2000 ≤ n && n ≤ 0x200A) || n == 0x2028 || n == 0x2029 || n == 0x202F || n == 0x205F ||
    n == 0x3000

/-- The characters without the leading blanks. -/
def trimStart (s : List Char) : List Char := s.dropWhile isBlank

/-- The characters without the trailing blanks. -/
def trimEnd (s : List Char) : List Char := (s.reverse.dropWhile isBlank).reverse

/-- The text without its leading and trailing blanks. -/
def trim (s : String) : String := String.ofList (trimEnd (trimStart s.toList))

/-- Every character of the text is blank; the empty text is blank too. -/
def blank (s : String) : Bool := s.toList.all isBlank

end SqlRecords.Text
