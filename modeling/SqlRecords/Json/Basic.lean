import SqlRecords.Number.Integer
import SqlRecords.Number.Shortest
import SqlRecords.Text.Hex

/-!
# JSON values and their text

A JSON value is written without blanks. `Json.tokens` lists the tokens of a value and
`Json.text` writes them one after the other. In a canonical value the fields of an object stand in
the order of their names and each name stands once.
-/

namespace SqlRecords

/-- The integers that JSON text keeps as integers. -/
abbrev Json.Integer : Type := { n : Int // IntType.i64.lo ≤ n ∧ n ≤ IntType.u64.hi }

/-- A JSON value; fields keep the order they are read in. -/
inductive Json where
  | null
  | bool (b : Bool)
  | integer (n : Json.Integer)
  | number (x : Float)
  | string (s : String)
  | array (items : List Json)
  | object (fields : List (String × Json))

namespace Json

instance : Inhabited Json := ⟨null⟩

/-- `n` as an integer of JSON text, when it fits. -/
def Integer.ofInt? (n : Int) : Option Integer :=
  if h : IntType.i64.lo ≤ n ∧ n ≤ IntType.u64.hi then some ⟨n, h⟩ else none

/-- A token of JSON text; a scalar is null, a truth value or a number. -/
inductive Token where
  | openArray | closeArray | openObject | closeObject | comma | colon
  | string (s : String)
  | scalar (j : Json)

mutual

/-- The tokens of a value. -/
def tokens : Json → List Token
  | .string s => [.string s]
  | .array items => .openArray :: itemTokens items
  | .object fields => .openObject :: fieldTokens fields
  | j => [.scalar j]

/-- The tokens of the items of an array, up to its end. -/
def itemTokens : List Json → List Token
  | [] => [.closeArray]
  | [j] => j.tokens ++ [.closeArray]
  | j :: rest => j.tokens ++ .comma :: itemTokens rest

/-- The tokens of the fields of an object, up to its end. -/
def fieldTokens : List (String × Json) → List Token
  | [] => [.closeObject]
  | [(name, j)] => .string name :: .colon :: j.tokens ++ [.closeObject]
  | (name, j) :: rest => .string name :: .colon :: j.tokens ++ .comma :: fieldTokens rest

end

/-- A character inside quotes: quotes, backslashes and the controls below the blank are escaped. -/
def escaped (c : Char) : List Char :=
  if c = '"' then ['\\', '"']
  else if c = '\\' then ['\\', '\\']
  else if c = '\n' then ['\\', 'n']
  else if c = '\r' then ['\\', 'r']
  else if c = '\t' then ['\\', 't']
  else if c = '\x08' then ['\\', 'b']
  else if c = '\x0c' then ['\\', 'f']
  else if c.toNat < 0x20 then
    ['\\', 'u', '0', '0', Text.hexDigit (c.toNat / 16), Text.hexDigit (c.toNat % 16)]
  else [c]

/-- A number that is no integer: plain from five places after the point to sixteen before it. -/
def numberStyle : Double.NumberStyle :=
  ⟨fun lead => decide (-5 ≤ lead ∧ lead ≤ 15), true, .even⟩

/-- The text of a scalar. -/
def scalarText : Json → List Char
  | .bool true => "true".toList
  | .bool false => "false".toList
  | .integer n => (Text.intText n.val).toList
  | .number x => (numberStyle.text x).toList
  | _ => "null".toList

/-- The text of a token. -/
def Token.text : Token → List Char
  | .openArray => ['[']
  | .closeArray => [']']
  | .openObject => ['\x7b']
  | .closeObject => ['\x7d']
  | .comma => [',']
  | .colon => [':']
  | .string s => '"' :: s.toList.flatMap escaped ++ ['"']
  | .scalar j => scalarText j

/-- The text of a value. -/
def text (j : Json) : String := String.ofList (j.tokens.flatMap Token.text)

/-- `fields` with `name` bound to `j`, in the order of names. -/
def insertField (name : String) (j : Json) : List (String × Json) → List (String × Json)
  | [] => [(name, j)]
  | (other, k) :: rest =>
    if name < other then (name, j) :: (other, k) :: rest
    else if name = other then (name, j) :: rest
    else (other, k) :: insertField name j rest

mutual

/-- The value with the fields of every object in the order of names; of two fields with one name
the later one stays. -/
def canonical : Json → Json
  | .array items => .array (canonicalItems items)
  | .object fields => .object (canonicalFields [] fields)
  | j => j

/-- Every item made canonical. -/
def canonicalItems : List Json → List Json
  | [] => []
  | j :: rest => j.canonical :: canonicalItems rest

/-- `done` with every field made canonical and put in. -/
def canonicalFields (done : List (String × Json)) : List (String × Json) → List (String × Json)
  | [] => done
  | (name, j) :: rest => canonicalFields (insertField name j.canonical done) rest

end

end Json

end SqlRecords
