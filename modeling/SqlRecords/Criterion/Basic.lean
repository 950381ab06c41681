import SqlRecords.Criterion.Operator
import SqlRecords.Statement.Bindings
import SqlRecords.Text.Pieces

/-!
# Criteria

A criterion is one predicate or one ordering of a query. A criterion whose value is missing is no
error: it drops out, so that a caller may list every filter there is and let the values decide
which of them take part.
-/

namespace SqlRecords

/-- One predicate or ordering. -/
structure Criterion where
  field : String
  operator : Operator
  /-- The value of an operator that takes one; it is never null. -/
  value : Option Value := .none
  /-- The values of an operator that takes several. -/
  values : List Value := []
  joint : Joint := .and
  /-- A criterion that is not enabled takes no part. -/
  enabled : Bool := true

namespace Criterion

/-- The criterion with a value; null is no value. -/
def withValue (c : Criterion) (v : Value) : Criterion :=
  { c with value := if v.isNull then none else some v }

/-- The criterion with a list of values. -/
def withValues (c : Criterion) (vs : List Value) : Criterion := { c with values := vs }

/-- The criterion behind another joint. -/
def joined (c : Criterion) (joint : Joint) : Criterion := { c with joint := joint }

/-- The criterion, taking part only when `enabled` holds. -/
def enabledIf (c : Criterion) (enabled : Bool) : Criterion := { c with enabled := enabled }

/-- `field op v` for an operator that takes one value. -/
def compare (op : Operator) (field : String) (v : Value) : Criterion :=
  withValue { field := field, operator := op } v

/-- `field like` the pattern that `v` makes; an empty value makes none. -/
def like (w : Wildcard) (field : String) (v : Value) : Criterion :=
  let c : Criterion := { field := field, operator := .like }
  if v.isEmpty then c else c.withValue (.text (w.wrap v))

/-- `field between low and high`. -/
def between (field : String) (low high : Value) : Criterion :=
  { field := field, operator := .between, values := [low, high] }

/-- `field in` the values. -/
def among (field : String) (vs : List Value) : Criterion :=
  { field := field, operator := .among, values := vs }

/-- `field not in` the values. -/
def notAmong (field : String) (vs : List Value) : Criterion :=
  { field := field, operator := .notAmong, values := vs }

/-- A criterion without values: a null check or an ordering. -/
def bare (op : Operator) (field : String) : Criterion := { field := field, operator := op }

/-- The criterion is an ordering that takes part. -/
def isOrdering (c : Criterion) : Bool := c.enabled && c.operator.arity == .order

/-- The criterion is a predicate that takes part: it is enabled and has what its operator takes. -/
def isPresent (c : Criterion) : Bool :=
  c.enabled && match c.operator.arity with
    | .single => c.value.isSome
    | .many => !c.values.isEmpty
    | .null => true
    | .order => false

/-- The text of the criterion alone, behind `joint`. Only a range can fail, for want of two ends. -/
def fragment (c : Criterion) (joint : Joint) : Except StatementError String :=
  let start := joint.text ++ c.field ++ " " ++ c.operator.keyword
  match c.operator.arity with
  | .single => .ok (start ++ " ? ")
  | .null => .ok (start ++ " ")
  | .order => .ok ("order by " ++ c.field ++ " " ++ c.operator.keyword ++ " ")
  | .many =>
    if c.operator = .between then
      if c.values.length = 2 then .ok (start ++ " ? and ? ")
      else .error (.invalidArgument (.rangeEnds c.field c.values.length))
    else .ok (start ++ "(" ++ Text.repeated "?" "," c.values.length ++ ") ")

/-- The values of the placeholders in the text of a criterion that takes part. -/
def params (c : Criterion) : List Value :=
  if c.isPresent then
    match c.operator.arity with
    | .single => c.value.toList
    | .many => c.values
    | .null | .order => []
  else []

/-- The value that the criterion binds to its field by name, taking part or not. -/
def binding? (c : Criterion) : Option Value :=
  match c.operator.arity with
  | .single => some (c.value.getD .null)
  | .many => some (.list c.values)
  | .null | .order => none

end Criterion

end SqlRecords
