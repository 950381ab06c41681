import SqlRecords.Text.Hex

/-!
# Tokens of TOML text

The scanner is fed one character at a time. It knows strings and comments, and leaves it to the
reader what a bare stretch of characters means.
-/

namespace SqlRecords.Toml

/-- A token; a comment makes none. -/
inductive Token where
  | newline
  | blank
  | equals
  | comma
  | dot
  | openBracket
  | closeBracket
  | openBrace
  | closeBrace
  /-- Characters outside quotes. -/
  | bare (s : List Char)
  | string (s : List Char)
  /-- A string in triple quotes, which cannot be a key. -/
  | multiline (s : List Char)
  deriving DecidableEq

/-- What the scanner is inside of. -/
inductive Mode where
  | idle
  | bare (s : List Char)
  | comment
  /-- Behind a carriage return, which a line feed has to follow. -/
  | carriage
  /-- Behind one or two quotes that may begin a string in triple quotes. -/
  | opened (mark : Char)
  | openedTwice (mark : Char)
  /-- Behind the opening triple quotes, where one line end is dropped. -/
  | fresh (mark : Char)
  | freshReturn (mark : Char)
  /-- Inside a string of one line. -/
  | line (mark : Char) (s : List Char)
  /-- Inside a string in triple quotes, behind `quotes` quotes in a row. -/
  | block (mark : Char) (s : List Char) (quotes : Nat)
  | blockReturn (mark : Char) (s : List Char)
  /-- Behind a backslash. -/
  | escape (triple : Bool) (s : List Char)
  /-- The digits of an escaped character: those still to come after the next one, and its value. -/
  | code (triple : Bool) (s : List Char) (left value : Nat)
  /-- Behind a backslash at the end of a line; blanks are dropped up to the next character. -/
  | fold (s : List Char) (ended : Bool)
  | foldReturn (s : List Char)

/-- A character that strings and comments may contain as it is. -/
def isPlain (c : Char) : Bool := c = '\t' || (0x20 ≤ c.toNat && c.toNat != 0x7F)

/-- A blank within a line. -/
def isSpace (c : Char) : Bool := c = ' ' || c = '\t'

/-- A character between tokens. -/
def start (c : Char) : Option (List Token × Mode) :=
  if isSpace c then some ([.blank], .idle)
  else if c = '\n' then some ([.newline], .idle)
  else if c = '\r' then some ([], .carriage)
  else if c = '#' then some ([], .comment)
  else if c = '=' then some ([.equals], .idle)
  else if c = ',' then some ([.comma], .idle)
  else if c = '.' then some ([.dot], .idle)
  else if c = '[' then some ([.openBracket], .idle)
  else if c = ']' then some ([.closeBracket], .idle)
  else if c = '\x7b' then some ([.openBrace], .idle)
  else if c = '\x7d' then some ([.closeBrace], .idle)
  else if c = '"' || c = '\'' then some ([], .opened c)
  else if isPlain c then some ([], .bare [c])
  else none

/-- A character that ends a bare stretch. -/
def endsBare (c : Char) : Bool :=
  isSpace c || c = '\n' || c = '\r' || c = '#' || c = '=' || c = ',' || c = '.' || c = '[' ||
    c = ']' || c = '\x7b' || c = '\x7d' || c = '"' || c = '\''

/-- A character of a string of one line. -/
def lineStep (mark : Char) (s : List Char) (c : Char) : Option (List Token × Mode) :=
  if c = mark then some ([.string s], .idle)
  else if c = '\\' && mark = '"' then some ([], .escape false s)
  else if isPlain c then some ([], .line mark (s ++ [c]))
  else none

/-- A character of a string in triple quotes that is no quote. -/
def blockChar (mark : Char) (s : List Char) (c : Char) : Option (List Token × Mode) :=
  if c = '\\' && mark = '"' then some ([], .escape true s)
  else if c = '\r' then some ([], .blockReturn mark s)
  else if c = '\n' || isPlain c then some ([], .block mark (s ++ [c]) 0)
  else none

/-- A character of a string in triple quotes. Of the quotes that close it, up to two more than
three belong to the string. -/
def blockStep (mark : Char) (s : List Char) (quotes : Nat) (c : Char) :
    Option (List Token × Mode) :=
  if c = mark then
    if quotes = 4 then some ([.multiline (s ++ [mark, mark])], .idle)
    else some ([], .block mark s (quotes + 1))
  else if 3 ≤ quotes then do
    let (tokens, mode) ← start c
    some (.multiline (s ++ List.replicate (quotes - 3) mark) :: tokens, mode)
  else blockChar mark (s ++ List.replicate quotes mark) c

/-- The inside of a string in double quotes. -/
def inside (triple : Bool) (s : List Char) : Mode := if triple then .block '"' s 0 else .line '"' s

/-- The character that a letter after a backslash stands for. -/
def escapeValue? (c : Char) : Option Char :=
  if c = '"' ∨ c = '\\' then some c
  else if c = 'b' then some '\x08'
  else if c = 't' then some '\t'
  else if c = 'n' then some '\n'
  else if c = 'f' then some '\x0c'
  else if c = 'e' then some '\x1b'
  else if c = 'r' then some '\r'
  else none

/-- A character behind a backslash. -/
def escapeStep (triple : Bool) (s : List Char) (c : Char) : Option (List Token × Mode) :=
  if c = 'x' then some ([], .code triple s 1 0)
  else if c = 'u' then some ([], .code triple s 3 0)
  else if c = 'U' then some ([], .code triple s 7 0)
  else if triple && isSpace c then some ([], .fold s false)
  else if triple && c = '\n' then some ([], .fold s true)
  else if triple && c = '\r' then some ([], .foldReturn s)
  else (escapeValue? c).map fun e => ([], inside triple (s ++ [e]))

/-- One character: the tokens that it completes, and the mode after it. -/
def scanStep : Mode → Char → Option (List Token × Mode)
  | .idle, c => start c
  | .bare s, c =>
    if endsBare c then do
      let (tokens, mode) ← start c
      some (.bare s :: tokens, mode)
    else if isPlain c then some ([], .bare (s ++ [c]))
    else none
  | .comment, c =>
    if c = '\n' then some ([.newline], .idle)
    else if c = '\r' then some ([], .carriage)
    else if isPlain c then some ([], .comment)
    else none
  | .carriage, c => if c = '\n' then some ([.newline], .idle) else none
  | .opened mark, c => if c = mark then some ([], .openedTwice mark) else lineStep mark [] c
  | .openedTwice mark, c =>
    if c = mark then some ([], .fresh mark)
    else do
      let (tokens, mode) ← start c
      some (.string [] :: tokens, mode)
  | .fresh mark, c =>
    if c = '\n' then some ([], .block mark [] 0)
    else if c = '\r' then some ([], .freshReturn mark)
    else blockStep mark [] 0 c
  | .freshReturn mark, c => if c = '\n' then some ([], .block mark [] 0) else none
  | .line mark s, c => lineStep mark s c
  | .block mark s quotes, c => blockStep mark s quotes c
  | .blockReturn mark s, c => if c = '\n' then some ([], .block mark (s ++ ['\r', c]) 0) else none
  | .escape triple s, c => escapeStep triple s c
  | .code triple s left value, c => do
    let value := 16 * value + (← Text.hexValue? c)
    match left with
    | left + 1 => some ([], .code triple s left value)
    | 0 => if value.isValidChar then some ([], inside triple (s ++ [Char.ofNat value])) else none
  | .fold s false, c =>
    if isSpace c then some ([], .fold s false)
    else if c = '\n' then some ([], .fold s true)
    else if c = '\r' then some ([], .foldReturn s)
    else none
  | .fold s true, c =>
    if isSpace c || c = '\n' then some ([], .fold s true)
    else if c = '\r' then some ([], .foldReturn s)
    else blockStep '"' s 0 c
  | .foldReturn s, c => if c = '\n' then some ([], .fold s true) else none

/-- The end of the text: a string has to be closed. -/
def scanEnd : Mode → Option (List Token)
  | .idle => some []
  | .comment => some []
  | .bare s => some [.bare s]
  | .openedTwice _ => some [.string []]
  | .block mark s quotes =>
    if 3 ≤ quotes then some [.multiline (s ++ List.replicate (quotes - 3) mark)] else none
  | _ => none

/-- The tokens of the remaining characters. -/
def scan : Mode → List Char → Option (List Token)
  | mode, [] => scanEnd mode
  | mode, c :: rest => do
    let (tokens, mode) ← scanStep mode c
    let more ← scan mode rest
    some (tokens ++ more)

end SqlRecords.Toml
