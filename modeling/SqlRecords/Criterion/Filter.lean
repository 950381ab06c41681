import SqlRecords.Criterion.Basic

/-!
# Filters

A list of criteria is a filter: its predicates, joined in order, and behind them its orderings.
The first predicate that takes part stands without its joint.
-/

namespace SqlRecords.Filter

/-- The predicates that take part, the first one without a joint when `first` holds. -/
def predicatesText (first : Bool) : List Criterion → Except StatementError String
  | [] => .ok ""
  | c :: rest =>
    if c.isPresent then do
      let fragment ← c.fragment (if first then .none else c.joint)
      let more ← predicatesText false rest
      return fragment ++ more
    else predicatesText first rest

/-- One ordering. -/
def orderingText (c : Criterion) : String := c.field ++ " " ++ c.operator.keyword ++ " "

/-- The orderings that take part, behind `order by` if there are any. -/
def orderingsText (cs : List Criterion) : String :=
  match cs.filter Criterion.isOrdering with
  | [] => ""
  | orderings => "order by " ++ ", ".intercalate (orderings.map orderingText)

/-- The text of a filter, without `where`. -/
def text (cs : List Criterion) : Except StatementError String := do
  let predicates ← predicatesText true cs
  return predicates ++ orderingsText cs

/-- The values of the placeholders, in order. -/
def params (cs : List Criterion) : List Value := cs.flatMap Criterion.params

/-- Text and values. -/
def build (cs : List Criterion) : Except StatementError Statement :=
  (text cs).map fun text => ⟨text, params cs⟩

/-- The values by field name; of two criteria on one field the later one stays. -/
def bindings (cs : List Criterion) : Bindings :=
  Bindings.ofList (cs.filterMap fun c => c.binding?.map fun v => (c.field, v))

/-- An equality for each column and its value. -/
def ofColumns (columns : List String) (values : List Value) :
    Except StatementError (List Criterion) :=
  if columns.length = values.length then
    .ok ((columns.zip values).map fun (column, v) => Criterion.compare .eq column v)
  else .error (.argumentMismatch columns.length values.length)

end SqlRecords.Filter
