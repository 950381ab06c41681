import SqlRecords.Text.Blank
import SqlRecords.Text.Letter

/-!
# Files of variables

A file of variables holds a line `name=value` for each. Values may be quoted, quoted values may
go over several lines, and values may mention variables. `lines` cuts the file into such lines,
and `parseLine` reads one.
-/

namespace SqlRecords.Variables

/-! ### Lines -/

/-- What the end of a line stands in. -/
inductive Mode where
  | plain
  /-- Right behind a blank, where a comment may begin. -/
  | blank
  | escaped
  | quoted (mark : Char)
  | quotedEscape (mark : Char)
  deriving DecidableEq

/-- The mode after a character, none where a comment begins. -/
def step : Mode → Char → Option Mode
  | .blank, c =>
    if c = '#' then none
    else if c = '\\' then some .escaped
    else if c = '"' ∨ c = '\'' then some (.quoted c)
    else some .plain
  | .plain, c =>
    if Text.isBlank c && c != '\n' && c != '\r' then some .blank
    else if c = '\\' then some .escaped
    else if c = '"' ∨ c = '\'' then some (.quoted c)
    else some .plain
  | .escaped, _ => some .plain
  | .quoted mark, c =>
    if c = '\\' then some (.quotedEscape mark)
    else if c = mark then some .plain
    else some (.quoted mark)
  | .quotedEscape mark, _ => some (.quoted mark)

/-- The mode after the characters of a line, and the characters before a comment if one begins. -/
def advance (mode : Mode) : List Char → List Char × Option Mode
  | [] => ([], some mode)
  | c :: rest =>
    match step mode c with
    | none => ([], none)
    | some mode =>
      let (kept, mode) := advance mode rest
      (c :: kept, mode)

/-- The lines of a text, each with the line feed that ends it. -/
def physical : List Char → List (List Char)
  | [] => []
  | c :: rest =>
    if c = '\n' then [c] :: physical rest
    else match physical rest with
      | [] => [[c]]
      | line :: more => (c :: line) :: more

/-- The text without the line end behind it. -/
def chomp (s : List Char) : List Char :=
  match s.reverse with
  | '\n' :: '\r' :: rest => rest.reverse
  | '\n' :: rest => rest.reverse
  | _ => s

/-- The first character that is no blank begins a comment. -/
def isComment (s : List Char) : Bool := (Text.trimStart s).head? == some '#'

/-- The lines that statements stand on, `held` being the part of one that is not complete. A line
that the end of the file leaves incomplete is none. -/
def join (mode : Mode) (held : List Char) : List (List Char) → List (Option (List Char))
  | [] => if mode = .plain then [] else [none]
  | line :: more =>
    if isComment (held ++ line) then join .plain [] more
    else match advance mode line with
      | (kept, none) => some (held ++ kept) :: join .plain [] more
      | (_, some .plain) => some (chomp (held ++ line)) :: join .plain [] more
      | (_, some mode) => join mode (held ++ line) more

/-- The lines that statements stand on. A byte order mark in front is no part of the file. -/
def lines (s : String) : List (Option (List Char)) :=
  let chars := match s.toList with
    | c :: rest => if c.toNat = 0xFEFF then rest else c :: rest
    | [] => []
  join .plain [] (physical chars)

/-! ### Values -/

/-- The values of variables, the latest first. -/
abbrev Scope := List (String × String)

/-- What the value of a variable is: one of the surroundings goes before one of the file. -/
def lookUp (surroundings file : Scope) (name : List Char) : List Char :=
  let name := String.ofList name
  (((surroundings.lookup name).or (file.lookup name)).getD "").toList

/-- What a value is inside of. -/
inductive ValueMode where
  | plain
  /-- Inside double quotes, where variables and escapes count. -/
  | double
  /-- Inside single quotes, where every character stands for itself. -/
  | single
  /-- Behind a backslash. -/
  | escape (inDouble : Bool)
  /-- Behind a dollar sign: the name so far. -/
  | variable (inDouble : Bool) (name : List Char)
  /-- The name so far in braces behind a dollar sign. -/
  | braced (inDouble : Bool) (name : List Char)
  /-- Behind the value, where only a comment may follow. -/
  | finished
  /-- Inside that comment. -/
  | comment

/-- Back from an escape or a variable. -/
def ValueMode.back (inDouble : Bool) : ValueMode := if inDouble then .double else .plain

/-- One character: what it adds to the value, and the mode after it. The name of a variable behind
a dollar sign is made of letters and numbers of any script. -/
def valueStep (look : List Char → List Char) : ValueMode → Char → Option (List Char × ValueMode)
  | .finished, c =>
    if c = ' ' ∨ c = '\t' then some ([], .finished)
    else if c = '#' then some ([], .comment)
    else none
  | .comment, _ => some ([], .comment)
  | .escape inDouble, c =>
    if c = '\\' ∨ c = '\'' ∨ c = '"' ∨ c = '$' ∨ c = ' ' then some ([c], .back inDouble)
    else if c = 'n' then some (['\n'], .back inDouble)
    else none
  | .single, c => some (if c = '\'' then ([], .plain) else ([c], .single))
  | .variable inDouble name, c =>
    if Text.isAlphanumeric c then some ([], .variable inDouble (name ++ [c]))
    else if c = '\x7b' && name.isEmpty then some ([], .braced inDouble [])
    else if c = '$' then some (look name, .variable inDouble [])
    else some (look name ++ [c], .back inDouble)
  | .braced inDouble name, c =>
    if c = '\x7d' then some (look name, .back inDouble)
    else some ([], .braced inDouble (name ++ [c]))
  | .double, c =>
    if c = '$' then some ([], .variable true [])
    else if c = '"' then some ([], .plain)
    else if c = '\\' then some ([], .escape true)
    else some ([c], .double)
  | .plain, c =>
    if c = '$' then some ([], .variable false [])
    else if c = '\'' then some ([], .single)
    else if c = '"' then some ([], .double)
    else if c = '\\' then some ([], .escape false)
    else if c = ' ' ∨ c = '\t' then some ([], .finished)
    else some ([c], .plain)

/-- What the end of the line adds; quotes and braces have to be closed. -/
def valueEnd (look : List Char → List Char) : ValueMode → Option (List Char)
  | .double | .single | .escape true | .braced .. | .variable true _ => none
  | .variable false name => some (look name)
  | _ => some []

/-- The value of the remaining characters. -/
def readValue (look : List Char → List Char) : ValueMode → List Char → Option (List Char)
  | mode, [] => valueEnd look mode
  | mode, c :: rest => do
    let (added, mode) ← valueStep look mode c
    let more ← readValue look mode rest
    some (added ++ more)

/-! ### Statements -/

/-- The name that a line starts with, and what follows it. -/
def takeName? (s : List Char) : Option (List Char × List Char) :=
  match s with
  | c :: _ =>
    if c.isAlpha || c = '_' then some (s.span fun c => c.isAlphanum || c = '_' || c = '.') else none
  | [] => none

/-- What follows an equals sign, blanks dropped on both sides of it. -/
def afterEquals? (s : List Char) : Option (List Char) :=
  match Text.trimStart s with
  | '=' :: rest => some (Text.trimStart rest)
  | _ => none

/-- The name of a statement and the text of its value. The word `export` may stand in front. -/
def parts? (s : List Char) : Option (List Char × List Char) := do
  let (name, rest) ← takeName? s
  match afterEquals? rest with
  | some value => some (name, value)
  | none =>
    if name = "export".toList then
      let (name, rest) ← takeName? (Text.trimStart rest)
      let value ← afterEquals? rest
      some (name, value)
    else none

/-- The variable of a line, if it is not blank and no comment. -/
def parseLine (surroundings file : Scope) (line : List Char) :
    Option (Option (String × String)) :=
  let s := Text.trimStart (Text.trimEnd line)
  if s.isEmpty || s.head? == some '#' then some none
  else do
    let (name, value) ← parts? s
    let name := String.ofList name
    if value.isEmpty || value.head? == some '#' then some (some (name, ""))
    else
      let value ← readValue (lookUp surroundings file) .plain value
      some (some (name, String.ofList value))

/-- The surroundings after the lines of a file: a variable that is set already stays. `file` holds
the variables of earlier lines. -/
def loadLines (surroundings file : Scope) : List (Option (List Char)) → Option Scope
  | [] => some surroundings
  | none :: _ => none
  | some line :: more =>
    match parseLine surroundings file line with
    | none => none
    | some none => loadLines surroundings file more
    | some (some (name, value)) =>
      let kept := if (surroundings.lookup name).isSome then surroundings
        else (name, value) :: surroundings
      loadLines kept ((name, value) :: file) more

/-- The surroundings after a file of variables is read. -/
def load (surroundings : Scope) (s : String) : Option Scope := loadLines surroundings [] (lines s)

end SqlRecords.Variables
