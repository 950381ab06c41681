import SqlRecords.Json.Number

/-!
# Reading JSON text

Two machines, each fed one element at a time: `scan` turns characters into tokens, and `build`
turns tokens into a value with the open arrays and objects on a stack. Unless told otherwise,
readers let at most 127 of them be open at once.
-/

namespace SqlRecords.Json

/-! ### Tokens -/

/-- What the scanner is inside of. -/
inductive Mode where
  | idle
  /-- A number or a word; the characters so far. -/
  | number (s : List Char)
  | word (s : List Char)
  /-- A string: the characters so far, and then an escape in it. -/
  | quoted (s : List Char)
  | escape (s : List Char)
  /-- The digits of a code unit: those still to come, its value, and the leading unit of a pair. -/
  | unit (s : List Char) (lead : Option Nat) (left value : Nat)
  /-- The escape that has to follow the leading unit of a pair. -/
  | pairBackslash (s : List Char) (lead : Nat)
  | pairLetter (s : List Char) (lead : Nat)

/-- A blank of JSON text. -/
def isSpace (c : Char) : Bool := c = ' ' || c = '\n' || c = '\t' || c = '\r'

/-- A character that numbers are made of. -/
def isNumberPart (c : Char) : Bool :=
  Text.isDigit c || c = '-' || c = '+' || c = '.' || c = 'e' || c = 'E'

/-- The value of a word. -/
def wordValue? (s : List Char) : Option Json :=
  if s = "null".toList then some .null
  else if s = "true".toList then some (.bool true)
  else if s = "false".toList then some (.bool false)
  else none

/-- A character between tokens. -/
def start (c : Char) : Option (List Token × Mode) :=
  if isSpace c then some ([], .idle)
  else if c = '[' then some ([.openArray], .idle)
  else if c = ']' then some ([.closeArray], .idle)
  else if c = '\x7b' then some ([.openObject], .idle)
  else if c = '\x7d' then some ([.closeObject], .idle)
  else if c = ',' then some ([.comma], .idle)
  else if c = ':' then some ([.colon], .idle)
  else if c = '"' then some ([], .quoted [])
  else if Text.isDigit c || c = '-' then some ([], .number [c])
  else if c.isAlpha then some ([], .word [c])
  else none

/-- The character that a letter after a backslash stands for. -/
def escapeValue? (c : Char) : Option Char :=
  if c = '"' ∨ c = '\\' ∨ c = '/' then some c
  else if c = 'b' then some '\x08'
  else if c = 'f' then some '\x0c'
  else if c = 'n' then some '\n'
  else if c = 'r' then some '\r'
  else if c = 't' then some '\t'
  else none

/-- A complete code unit: a leading one waits for its partner, and neither may stand alone. -/
def unitMode (s : List Char) (lead : Option Nat) (value : Nat) : Option Mode :=
  let trailing := decide (0xDC00 ≤ value ∧ value ≤ 0xDFFF)
  match lead with
  | some high =>
    if trailing then
      some (.quoted (s ++ [Char.ofNat (0x10000 + (high - 0xD800) * 0x400 + (value - 0xDC00))]))
    else none
  | none =>
    if trailing then none
    else if 0xD800 ≤ value ∧ value ≤ 0xDBFF then some (.pairBackslash s value)
    else some (.quoted (s ++ [Char.ofNat value]))

/-- One character: the tokens that it completes, and the mode after it. -/
def scanStep : Mode → Char → Option (List Token × Mode)
  | .idle, c => start c
  | .number s, c =>
    if isNumberPart c then some ([], .number (s ++ [c]))
    else do
      let j ← readNumber s
      let (tokens, mode) ← start c
      some (.scalar j :: tokens, mode)
  | .word s, c =>
    if c.isAlpha then some ([], .word (s ++ [c]))
    else do
      let j ← wordValue? s
      let (tokens, mode) ← start c
      some (.scalar j :: tokens, mode)
  | .quoted s, c =>
    if c = '"' then some ([.string (String.ofList s)], .idle)
    else if c = '\\' then some ([], .escape s)
    else if c.toNat < 0x20 then none
    else some ([], .quoted (s ++ [c]))
  | .escape s, c =>
    if c = 'u' then some ([], .unit s none 3 0)
    else (escapeValue? c).map fun e => ([], .quoted (s ++ [e]))
  | .unit s lead left value, c => do
    let value := 16 * value + (← Text.hexValue? c)
    match left with
    | left + 1 => some ([], .unit s lead left value)
    | 0 => (unitMode s lead value).map fun mode => ([], mode)
  | .pairBackslash s lead, c => if c = '\\' then some ([], .pairLetter s lead) else none
  | .pairLetter s lead, c => if c = 'u' then some ([], .unit s (some lead) 3 0) else none

/-- The end of the text: a number or a word may end there. -/
def scanEnd : Mode → Option (List Token)
  | .idle => some []
  | .number s => (readNumber s).map fun j => [.scalar j]
  | .word s => (wordValue? s).map fun j => [.scalar j]
  | _ => none

/-- The tokens of the remaining characters. -/
def scan : Mode → List Char → Option (List Token)
  | mode, [] => scanEnd mode
  | mode, c :: rest => do
    let (tokens, mode) ← scanStep mode c
    let more ← scan mode rest
    some (tokens ++ more)

/-! ### Values -/

/-- An array or object that a value is being read for. -/
inductive Frame where
  | array (items : List Json)
  | object (fields : List (String × Json)) (name : String)

/-- What has been read, and what may follow. -/
inductive State where
  /-- A value has to follow. -/
  | value (stack : List Frame)
  /-- Inside an array: a comma or its end, or right after its start a value or its end. -/
  | item (fresh : Bool) (items : List Json) (stack : List Frame)
  /-- Inside an object: a comma or its end, or right after its start a name or its end. -/
  | field (fresh : Bool) (fields : List (String × Json)) (stack : List Frame)
  /-- A name has to follow. -/
  | name (fields : List (String × Json)) (stack : List Frame)
  /-- A colon has to follow. -/
  | colon (fields : List (String × Json)) (name : String) (stack : List Frame)
  | done (j : Json)

/-- A value takes its place in the innermost open array or object. -/
def place (j : Json) : List Frame → State
  | [] => .done j
  | .array items :: stack => .item false (items ++ [j]) stack
  | .object fields name :: stack => .field false (fields ++ [(name, j)]) stack

/-- The arrays and objects that may be open at once; nothing stands for no limit. -/
abbrev DepthLimit : Type := Option Nat

/-- The limit of readers that are not told otherwise. -/
def depthLimit : DepthLimit := some 127

/-- One more array or object may be opened. -/
def DepthLimit.admits (limit : DepthLimit) (stack : List Frame) : Bool :=
  limit.all fun most => stack.length < most

/-- The first token of a value. -/
def beginValue (limit : DepthLimit) (stack : List Frame) : Token → Option State
  | .scalar j => some (place j stack)
  | .string s => some (place (.string s) stack)
  | .openArray => if limit.admits stack then some (.item true [] stack) else none
  | .openObject => if limit.admits stack then some (.field true [] stack) else none
  | _ => none

/-- One token. -/
def buildStep (limit : DepthLimit) : State → Token → Option State
  | .value stack, token => beginValue limit stack token
  | .item _ items stack, .closeArray => some (place (.array items) stack)
  | .item true items stack, token => beginValue limit (.array items :: stack) token
  | .item false items stack, .comma => some (.value (.array items :: stack))
  | .field _ fields stack, .closeObject => some (place (.object fields) stack)
  | .field true fields stack, .string s => some (.colon fields s stack)
  | .field false fields stack, .comma => some (.name fields stack)
  | .name fields stack, .string s => some (.colon fields s stack)
  | .colon fields name stack, .colon => some (.value (.object fields name :: stack))
  | _, _ => none

/-- The value of the remaining tokens. -/
def build (limit : DepthLimit) : State → List Token → Option Json
  | .done j, [] => some j
  | _, [] => none
  | state, token :: rest => (buildStep limit state token).bind fun state => build limit state rest

/-- The value of a JSON text, fields as they are written. -/
def ofText? (s : String) (limit : DepthLimit := depthLimit) : Option Json :=
  (scan .idle s.toList).bind (build limit (.value []))

/-- The canonical value of a JSON text. -/
def read? (s : String) : Option Json := (ofText? s).map canonical

end SqlRecords.Json
