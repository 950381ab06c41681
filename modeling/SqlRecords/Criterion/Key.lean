import SqlRecords.Criterion.Filter
import SqlRecords.Value.TypeCode

/-!
# Filter keys

A request names a filter by a key: a type code, a match code and a field with dashes between, or
an ordering code and a field. The value of the request becomes the value of the criterion.
-/

namespace SqlRecords

/-- What a key says about its field. -/
inductive MatchCode where
  | eq | ne | lt | gt | le | ge | like | notLike | among | notAmong | between
  | ascending | descending
  deriving DecidableEq, Repr

namespace MatchCode

/-- Every code. -/
def all : List MatchCode :=
  [eq, ne, lt, gt, le, ge, like, notLike, among, notAmong, between, ascending, descending]

/-- The code as keys spell it. -/
def code : MatchCode → String
  | eq => "EQ"
  | ne => "NE"
  | lt => "LT"
  | gt => "GT"
  | le => "LE"
  | ge => "GE"
  | like => "LIKE"
  | notLike => "NLIKE"
  | among => "IN"
  | notAmong => "NI"
  | between => "BT"
  | ascending => "OA"
  | descending => "OD"

/-- The match of a code. -/
def ofCode? (s : String) : Option MatchCode := all.find? (·.code = s)

/-- The operator that the code stands for. -/
def operator : MatchCode → Operator
  | eq => .eq
  | ne => .notEq
  | lt => .lt
  | gt => .gt
  | le => .le
  | ge => .ge
  | like => .like
  | notLike => .notLike
  | among => .among
  | notAmong => .notAmong
  | between => .between
  | ascending => .ascending
  | descending => .descending

/-- The code orders and takes no value. -/
def isOrdering : MatchCode → Bool
  | ascending | descending => true
  | _ => false

/-- The value is a list with commas. -/
def splits : MatchCode → Bool
  | among | notAmong | between => true
  | _ => false

end MatchCode

/-- The value of a parsed key. -/
inductive FilterKey.Operand where
  | none
  | one (v : Value)
  | many (vs : List Value)

/-- A key together with the value of its request. -/
structure FilterKey where
  field : String
  operand : FilterKey.Operand
  type : Option TypeCode
  code : MatchCode

namespace FilterKey

/-- The letters before the keys of filters, unless configured otherwise. -/
def defaultLead : String := "Q"

/-- The key of an ordering, `head` before the dash and `rest` behind it. -/
def parseOrdering (key head rest : String) : Except StatementError FilterKey :=
  match (MatchCode.ofCode? head).filter MatchCode.isOrdering with
  | none => .error (.unknownOperator head)
  | some code =>
    if rest.isEmpty then .error (.malformedKey key)
    else .ok ⟨rest, .none, none, code⟩

/-- The value of a piece of the request. -/
def convert (key : String) (type : TypeCode) (piece : String) : Except StatementError Value :=
  (type.parse piece).mapError (.conversion key)

/-- The operand that a request value is for a code. -/
def operandOf (key : String) (type : TypeCode) (code : MatchCode) (raw : String) :
    Except StatementError Operand :=
  if code.splits then ((Text.split ',' raw).mapM (convert key type)).map .many
  else (convert key type raw).map .one

/-- The key of a predicate, `head` before the first dash and `rest` behind it. -/
def parsePredicate (key head rest raw : String) : Except StatementError FilterKey :=
  match TypeCode.ofCode? head with
  | none => .error (.unknownType head)
  | some type =>
    match Text.splitFirst '-' rest with
    | none => .error (.malformedKey key)
    | some (code, field) =>
      match (MatchCode.ofCode? code).filter fun m => !m.isOrdering with
      | none => .error (.unknownOperator code)
      | some m =>
        if field.isEmpty then .error (.malformedKey key)
        else (operandOf key type m raw).map fun operand => ⟨field, operand, some type, m⟩

/-- The key without its lead, with the value of its request. -/
def parse (key raw : String) : Except StatementError FilterKey :=
  match Text.splitFirst '-' key with
  | none => .error (.malformedKey key)
  | some (head, rest) =>
    if head.startsWith "O" then parseOrdering key head rest
    else parsePredicate key head rest raw

/-- The criterion that the key asks for. -/
def toCriterion (k : FilterKey) : Criterion :=
  let c := Criterion.bare k.code.operator k.field
  match k.operand with
  | .none => c
  | .one v => c.withValue v
  | .many vs => c.withValues vs

/-- What follows the lead and a dash in a key. -/
def encoded? (lead key : String) : Option String :=
  (Text.afterLead (lead.toList ++ ['-']) key.toList).map String.ofList

/-- The criteria of a request, in order: those of the keys with the lead that have a value. -/
def parseAll (lead : String) : List (String × String) → Except StatementError (List Criterion)
  | [] => .ok []
  | (key, raw) :: rest =>
    match encoded? lead key with
    | none => parseAll lead rest
    | some encoded =>
      if raw.isEmpty then parseAll lead rest
      else do
        let parsed ← parse encoded raw
        let more ← parseAll lead rest
        return parsed.toCriterion :: more

end FilterKey

end SqlRecords
