import SqlRecords.Statement.Error
import SqlRecords.Text.Blank

/-!
# Operators of criteria

The comparisons, ranges, memberships and orderings that a criterion may state, each with its SQL
keyword.
-/

namespace SqlRecords

/-- What a criterion says about its field. -/
inductive Operator where
  | eq | notEq | lt | gt | le | ge | like | notLike | between | among | notAmong
  | isNull | isNotNull | ascending | descending
  deriving DecidableEq, Repr

/-- How many values an operator takes; an ordering is no predicate. -/
inductive Operator.Arity where
  | single | many | null | order
  deriving DecidableEq, Repr

namespace Operator

/-- Every operator. -/
def all : List Operator :=
  [eq, notEq, lt, gt, le, ge, like, notLike, between, among, notAmong, isNull, isNotNull,
    ascending, descending]

/-- The SQL keyword. -/
def keyword : Operator → String
  | eq => "="
  | notEq => "!="
  | lt => "<"
  | gt => ">"
  | le => "<="
  | ge => ">="
  | like => "like"
  | notLike => "not like"
  | between => "between"
  | among => "in"
  | notAmong => "not in"
  | isNull => "is null"
  | isNotNull => "is not null"
  | ascending => "asc"
  | descending => "desc"

/-- The values that the operator takes. -/
def arity : Operator → Arity
  | between | among | notAmong => .many
  | isNull | isNotNull => .null
  | ascending | descending => .order
  | _ => .single

/-- The operator of a keyword, in any case and between blanks. -/
def ofKeyword? (s : String) : Option Operator :=
  all.find? (·.keyword = (Text.trim s).toLower)

/-- The operator of a keyword, or the error that names it. -/
def ofKeyword (s : String) : Except StatementError Operator :=
  match ofKeyword? s with
  | some op => .ok op
  | none => .error (.unknownOperator s)

end Operator

/-- What joins a predicate to those before it. -/
inductive Joint where
  | and | or | none
  deriving DecidableEq, Repr

/-- The text before a joined predicate. -/
def Joint.text : Joint → String
  | and => "and "
  | or => "or "
  | none => ""

end SqlRecords
