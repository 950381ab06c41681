import SqlRecords.Statement.Bindings
import SqlRecords.Statement.Error
import SqlRecords.Text.Pieces

/-!
# Templates

SQL text may name its parameters as `:name`. `pieces` splits such a text into placeholders and
other characters: quoted stretches and double colons hold no placeholder. `expand` writes a
question mark for each value that a placeholder stands for.
-/

namespace SqlRecords.Template

/-- Part of a template. -/
inductive Piece where
  | char (c : Char)
  | placeholder (name : String)
  deriving DecidableEq

/-- What the splitter is inside of. -/
inductive Mode where
  | plain
  /-- Behind a colon that may begin a placeholder. -/
  | colon
  /-- Inside a name. -/
  | name (s : List Char)
  /-- Inside quotes that `close` ends. -/
  | quoted (close : Char)

/-- A character that opens and closes quotes. -/
def isQuote (c : Char) : Bool := c = '\'' || c = '"' || c = '\x60'

/-- A character that a name may begin with. -/
def startsName (c : Char) : Bool := c.isAlpha || c = '_'

/-- A character that a name may contain. -/
def continuesName (c : Char) : Bool := c.isAlphanum || c = '_'

/-- A character outside quotes and names. -/
def plainStep (c : Char) : List Piece × Mode :=
  if isQuote c then ([.char c], .quoted c)
  else if c = ':' then ([], .colon)
  else ([.char c], .plain)

/-- One character: the pieces that it completes, and the mode after it. -/
def step : Mode → Char → List Piece × Mode
  | .plain, c => plainStep c
  | .colon, c =>
    if c = ':' then ([.char ':', .char ':'], .plain)
    else if startsName c then ([], .name [c])
    else (.char ':' :: (plainStep c).1, (plainStep c).2)
  | .name s, c =>
    if continuesName c then ([], .name (s ++ [c]))
    else (.placeholder (String.ofList s) :: (plainStep c).1, (plainStep c).2)
  | .quoted close, c => ([.char c], if c = close then .plain else .quoted close)

/-- The piece that the end of the text completes. -/
def finish : Mode → List Piece
  | .colon => [.char ':']
  | .name s => [.placeholder (String.ofList s)]
  | _ => []

/-- The pieces of the remaining characters. -/
def piecesFrom : Mode → List Char → List Piece
  | mode, [] => finish mode
  | mode, c :: rest => (step mode c).1 ++ piecesFrom (step mode c).2 rest

/-- The pieces of a template. -/
def pieces (s : String) : List Piece := piecesFrom .plain s.toList

/-- The placeholders and values that stand for one bound value: one, or one per element. -/
def bind (name : String) : Value → Except StatementError Statement
  | .list [] => .error (.invalidArgument (.emptyList name))
  | .list items => .ok ⟨Text.repeated "?" ", " items.length, items⟩
  | v => .ok ⟨"?", [v]⟩

/-- What a piece becomes. -/
def Piece.expand (params : Bindings) : Piece → Except StatementError Statement
  | .char c => .ok ⟨String.singleton c, []⟩
  | .placeholder name =>
    match params.get? name with
    | some v => bind name v
    | none => .error (.missingParameter name)

/-- What the pieces become, one after the other. -/
def expandPieces (params : Bindings) : List Piece → Except StatementError Statement
  | [] => .ok ⟨"", []⟩
  | piece :: rest => do
    let first ← piece.expand params
    let more ← expandPieces params rest
    return ⟨first.text ++ more.text, first.params ++ more.params⟩

/-- The statement of a template under `params`. -/
def expand (s : String) (params : Bindings) : Except StatementError Statement :=
  expandPieces params (pieces s)

end SqlRecords.Template
