import SqlRecords.Toml.Scalar
import SqlRecords.Toml.Token

/-!
# Reading TOML text

The reader is fed one token at a time. Open arrays and tables in braces are on a stack, below
them the key of the statement; what statements say goes into the document at once. Between
brackets and between braces a line may end, but not inside a dotted key.
-/

namespace SqlRecords.Toml

/-- What a value is being read for. -/
inductive Frame where
  /-- The statement of a dotted key. -/
  | statement (key : List String)
  | array (items : List Toml)
  | braces (entries : Entries) (key : List String)

/-- What a key is being read for. -/
inductive KeyUse where
  | statement
  /-- A header, in double brackets if `many` holds. -/
  | header (many : Bool)
  | braces (entries : Entries) (stack : List Frame)

/-- What may follow. -/
inductive State where
  /-- A statement may begin. -/
  | line
  /-- Behind the bracket that opens a header. -/
  | header
  /-- Inside a dotted key; another part has to follow if `pending` holds. -/
  | key (use : KeyUse) (parts : List String) (pending : Bool)
  /-- In braces, behind a key and the end of its line, where an equals sign has to follow. -/
  | equals (entries : Entries) (parts : List String) (stack : List Frame)
  /-- Between the brackets that close a header in double brackets. -/
  | headerEnd (parts : List String)
  /-- A value has to follow. -/
  | value (stack : List Frame)
  /-- Inside a value without quotes. -/
  | scalar (s : List Char) (stack : List Frame)
  /-- Behind a date and a blank, where a time may follow. -/
  | date (s : List Char) (stack : List Frame)
  /-- Inside an array: a value or its end if `fresh` holds, otherwise a comma or its end. -/
  | item (fresh : Bool) (items : List Toml) (stack : List Frame)
  /-- Inside braces: a key or their end if `fresh` holds, otherwise a comma or their end. -/
  | entry (fresh : Bool) (entries : Entries) (stack : List Frame)
  /-- Nothing but blanks may follow on the line. -/
  | rest

/-- A document in the making. -/
structure Draft where
  root : Entries := []
  /-- The table that statements add to. -/
  path : List String := []
  state : State := .line

namespace Draft

/-- The document in another state. -/
def enter (d : Draft) (state : State) : Option Draft := some { d with state := state }

/-- A value takes its place. -/
def place (d : Draft) (v : Toml) : List Frame → Option Draft
  | .statement key :: _ =>
    (atHeader (addDotted? .header v key) d.path d.root).map fun root =>
      { d with root := root, state := .rest }
  | .array items :: stack => d.enter (.item false (items ++ [v]) stack)
  | .braces entries key :: stack =>
    (addDotted? .header v key entries).bind fun entries => d.enter (.entry false entries stack)
  | [] => none

/-- A header opens its table. -/
def openHeader (d : Draft) (many : Bool) (parts : List String) : Option Draft :=
  match parts.getLast? with
  | none => none
  | some key =>
    (atHeader (if many then openNext? key else openTable? key) parts.dropLast d.root).map
      fun root => { root := root, path := parts, state := .rest }

/-- A bare key. -/
def isKey (s : List Char) : Bool := s.all fun c => c.isAlphanum || c = '_' || c = '-'

/-- A token of a dotted key, or the one that ends it. -/
def keyStep (d : Draft) (use : KeyUse) (parts : List String) : Bool → Token → Option Draft
  | pending, .blank => d.enter (.key use parts pending)
  | true, .bare s => if isKey s then d.enter (.key use (parts ++ [String.ofList s]) false) else none
  | true, .string s => d.enter (.key use (parts ++ [String.ofList s]) false)
  | false, .dot => d.enter (.key use parts true)
  | false, .equals =>
    match use with
    | .statement => d.enter (.value [.statement parts])
    | .braces entries stack => d.enter (.value (.braces entries parts :: stack))
    | .header _ => none
  | false, .newline =>
    match use with
    | .braces entries stack => d.enter (.equals entries parts stack)
    | _ => none
  | false, .closeBracket =>
    match use with
    | .header false => d.openHeader false parts
    | .header true => d.enter (.headerEnd parts)
    | _ => none
  | _, _ => none

/-- The frames that may be on the stack: one for the statement, and 80 arrays and tables. -/
def depthLimit : Nat := 81

/-- The first token of a value. -/
def beginValue (d : Draft) (stack : List Frame) : Token → Option Draft
  | .blank => d.enter (.value stack)
  | .newline =>
    match stack with
    | .braces _ _ :: _ => d.enter (.value stack)
    | _ => none
  | .string s => d.place (.string (String.ofList s)) stack
  | .multiline s => d.place (.string (String.ofList s)) stack
  | .bare s => d.enter (.scalar s stack)
  | .openBracket => if stack.length < depthLimit then d.enter (.item true [] stack) else none
  | .openBrace => if stack.length < depthLimit then d.enter (.entry true [] stack) else none
  | _ => none

/-- A token behind a complete value. -/
def afterValue (d : Draft) (token : Token) : Option Draft :=
  match d.state, token with
  | .rest, .blank => some d
  | .rest, .newline => d.enter .line
  | .item _ _ _, .blank => some d
  | .item _ _ _, .newline => some d
  | .item _ items stack, .closeBracket => d.place (.array items) stack
  | .item false items stack, .comma => d.enter (.item true items stack)
  | .entry _ _ _, .blank => some d
  | .entry _ _ _, .newline => some d
  | .entry _ entries stack, .closeBrace => d.place (.table .braces entries) stack
  | .entry false entries stack, .comma => d.enter (.entry true entries stack)
  | _, _ => none

/-- The token behind a value without quotes. -/
def endScalar (d : Draft) (s : List Char) (stack : List Frame) (token : Token) : Option Draft := do
  let d ← d.place (← readScalar? s) stack
  d.afterValue token

/-- One token. -/
def step (d : Draft) (token : Token) : Option Draft :=
  match d.state, token with
  | .line, .blank => some d
  | .line, .newline => some d
  | .line, .openBracket => d.enter .header
  | .line, token => d.keyStep .statement [] true token
  | .header, .openBracket => d.enter (.key (.header true) [] true)
  | .header, token => d.keyStep (.header false) [] true token
  | .key use parts pending, token => d.keyStep use parts pending token
  | .equals _ _ _, .blank => some d
  | .equals _ _ _, .newline => some d
  | .equals entries parts stack, .equals => d.enter (.value (.braces entries parts :: stack))
  | .headerEnd parts, .closeBracket => d.openHeader true parts
  | .value stack, token => d.beginValue stack token
  | .scalar s stack, .bare more => d.enter (.scalar (s ++ more) stack)
  | .scalar s stack, .dot => d.enter (.scalar (s ++ ['.']) stack)
  | .scalar s stack, .blank =>
    if isDate s then d.enter (.date s stack) else d.endScalar s stack .blank
  | .scalar s stack, token => d.endScalar s stack token
  | .date s stack, .bare more =>
    if (more.head?).any Text.isDigit then d.enter (.scalar (s ++ ' ' :: more) stack) else none
  | .date s stack, token => d.endScalar s stack token
  | .item true _ _, .blank => some d
  | .item true _ _, .newline => some d
  | .item true items stack, .closeBracket => d.place (.array items) stack
  | .item true items stack, token => d.beginValue (.array items :: stack) token
  | .entry true _ _, .blank => some d
  | .entry true _ _, .newline => some d
  | .entry true entries stack, .closeBrace => d.place (.table .braces entries) stack
  | .entry true entries stack, token => d.keyStep (.braces entries stack) [] true token
  | _, token => d.afterValue token

/-- The document after the remaining tokens; the last line has to be complete. -/
def run : Draft → List Token → Option Entries
  | d, [] =>
    match d.state with
    | .line => some d.root
    | _ => none
  | d, token :: rest => (d.step token).bind fun d => run d rest

end Draft

/-- The document of a text. A byte order mark in front is no part of it. -/
def read? (s : String) : Option Entries :=
  let chars := match s.toList with
    | c :: rest => if c.toNat = 0xFEFF then rest else c :: rest
    | [] => []
  (scan .idle chars).bind fun tokens => Draft.run {} (tokens ++ [.newline])

end SqlRecords.Toml
