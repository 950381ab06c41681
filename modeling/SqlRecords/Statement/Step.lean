import SqlRecords.Statement.Draft

/-!
# Steps of a draft

A step appends one phrase with what it binds. It is gated by a condition or by the value that it
binds; a step that is held back, or whose keys do not fit its values, leaves the draft as it was.
Each method of a draft is such a step with a gate and a wildcard of its own.
-/

namespace SqlRecords.Draft

/-- What lets a step through: a condition, or the value that the step binds. -/
inductive Gate where
  | when (condition : Bool)
  | guarded (guard : Guard)

/-- One phrase with what it binds. -/
inductive Step where
  | plain (condition : Bool) (phrase : String)
  | value (gate : Gate) (phrase : String) (v : Value)
  | values (condition : Bool) (phrase : String) (vs : List Value)
  /-- The placeholders of the list are written behind the phrase. -/
  | membership (condition : Bool) (phrase : String) (vs : List Value)
  | pattern (gate : Gate) (w : Wildcard) (phrase : String) (v : Value)
  | named (gate : Gate) (phrase key : String) (v : Value)
  /-- A list under one key; the phrase carries the placeholder. -/
  | namedList (condition : Bool) (phrase key : String) (vs : List Value)
  | namedPattern (gate : Gate) (w : Wildcard) (phrase key : String) (v : Value)
  | pairs (condition : Bool) (phrase : String) (kvs : List (String × Value))
  /-- As many values as there are keys between the commas of `keys`. -/
  | keys (condition : Bool) (phrase keys : String) (vs : List Value)
  | bound (condition : Bool) (phrase : String) (binding : Binding)

/-- The elements of a list, which are looked at only when `condition` holds. -/
def collected {α : Type} (condition : Bool) (items : List α) : List α :=
  if condition then items else []

/-- The draft with one more phrase for a value that passes the gate. -/
def appendGated (d : Draft) (gate : Gate) (phrase : String) (v : Value)
    (binding : Value → Binding) : Draft :=
  match gate with
  | .when condition => d.appendIf condition phrase (binding v)
  | .guarded guard => d.appendGuarded guard phrase v binding

/-- The draft after one step. -/
def perform (d : Draft) : Step → Except StatementError Draft
  | .plain condition phrase => .ok (d.appendIf condition phrase)
  | .value gate phrase v => .ok (d.appendGated gate phrase v fun v => .positional [v])
  | .values condition phrase vs =>
    .ok (d.appendIf condition phrase (.positional (collected condition vs)))
  | .membership condition phrase vs =>
    .ok (d.appendIf condition phrase (.membership (collected condition vs)))
  | .pattern gate w phrase v => .ok (d.appendGated gate phrase v (.pattern w))
  | .named gate phrase key v => .ok (d.appendGated gate phrase v fun v => .named [(key, v)])
  | .namedList condition phrase key vs =>
    .ok (d.appendIf condition phrase (.named [(key, .list (collected condition vs))]))
  | .namedPattern gate w phrase key v =>
    .ok (d.appendGated gate phrase v (.namedPattern w key))
  | .pairs condition phrase kvs =>
    .ok (d.appendIf condition phrase (.named (collected condition kvs)))
  | .keys condition phrase keys vs => d.appendKeysIf condition phrase keys vs
  | .bound condition phrase binding => .ok (d.appendIf condition phrase binding)

/-- The draft after one step, and the draft as it was when the step fails. -/
def advance (d : Draft) (s : Step) : Draft :=
  match d.perform s with
  | .ok next => next
  | .error _ => d

/-- The draft after steps one after the other. -/
def run (d : Draft) (steps : List Step) : Draft := steps.foldl advance d

/-! ### Methods -/

/-- A method of a draft, with its arguments. -/
inductive Method where
  | plain (phrase : String)
  | plainIf (condition : Bool) (phrase : String)
  | boundIf (condition : Bool) (phrase : String) (binding : Binding)
  | value (phrase : String) (v : Value)
  | valueIf (condition : Bool) (phrase : String) (v : Value)
  | valueUnlessNull (phrase : String) (v : Value)
  | valueUnlessEmpty (phrase : String) (v : Value)
  | valueUnlessBlank (phrase : String) (v : Value)
  | values (phrase : String) (vs : List Value)
  | valuesIf (condition : Bool) (phrase : String) (vs : List Value)
  | membership (phrase : String) (vs : List Value)
  | membershipIf (condition : Bool) (phrase : String) (vs : List Value)
  | patternWith (condition : Bool) (w : Wildcard) (phrase : String) (v : Value)
  | pattern (phrase : String) (v : Value)
  | patternIf (condition : Bool) (phrase : String) (v : Value)
  | patternUnlessNull (phrase : String) (v : Value)
  | patternUnlessEmpty (phrase : String) (v : Value)
  | patternUnlessBlank (phrase : String) (v : Value)
  | patternBefore (phrase : String) (v : Value)
  | patternBeforeIf (condition : Bool) (phrase : String) (v : Value)
  | patternAfter (phrase : String) (v : Value)
  | patternAfterIf (condition : Bool) (phrase : String) (v : Value)
  | named (phrase key : String) (v : Value)
  | namedIf (condition : Bool) (phrase key : String) (v : Value)
  | namedUnlessNull (phrase key : String) (v : Value)
  | namedUnlessEmpty (phrase key : String) (v : Value)
  | namedUnlessBlank (phrase key : String) (v : Value)
  | namedList (phrase key : String) (vs : List Value)
  | namedListIf (condition : Bool) (phrase key : String) (vs : List Value)
  | namedPatternWith (condition : Bool) (w : Wildcard) (phrase key : String) (v : Value)
  | namedPattern (phrase key : String) (v : Value)
  | namedPatternBefore (phrase key : String) (v : Value)
  | namedPatternAfter (phrase key : String) (v : Value)
  | namedPatternUnlessBlank (phrase key : String) (v : Value)
  | pairs (phrase : String) (kvs : List (String × Value))
  | pairsIf (condition : Bool) (phrase : String) (kvs : List (String × Value))
  | keys (phrase keys : String) (vs : List Value)
  | keysIf (condition : Bool) (phrase keys : String) (vs : List Value)

/-- The step that a method is. -/
def Method.step : Method → Step
  | plain phrase => .plain true phrase
  | plainIf condition phrase => .plain condition phrase
  | boundIf condition phrase binding => .bound condition phrase binding
  | value phrase v => .value (.when true) phrase v
  | valueIf condition phrase v => .value (.when condition) phrase v
  | valueUnlessNull phrase v => .value (.guarded .unlessNull) phrase v
  | valueUnlessEmpty phrase v => .value (.guarded .unlessEmpty) phrase v
  | valueUnlessBlank phrase v => .value (.guarded .unlessBlank) phrase v
  | values phrase vs => .values true phrase vs
  | valuesIf condition phrase vs => .values condition phrase vs
  | membership phrase vs => .membership true phrase vs
  | membershipIf condition phrase vs => .membership condition phrase vs
  | patternWith condition w phrase v => .pattern (.when condition) w phrase v
  | pattern phrase v => .pattern (.when true) .both phrase v
  | patternIf condition phrase v => .pattern (.when condition) .both phrase v
  | patternUnlessNull phrase v => .pattern (.guarded .unlessNull) .both phrase v
  | patternUnlessEmpty phrase v => .pattern (.guarded .unlessEmpty) .both phrase v
  | patternUnlessBlank phrase v => .pattern (.guarded .unlessBlank) .both phrase v
  | patternBefore phrase v => .pattern (.when true) .before phrase v
  | patternBeforeIf condition phrase v => .pattern (.when condition) .before phrase v
  | patternAfter phrase v => .pattern (.when true) .after phrase v
  | patternAfterIf condition phrase v => .pattern (.when condition) .after phrase v
  | named phrase key v => .named (.when true) phrase key v
  | namedIf condition phrase key v => .named (.when condition) phrase key v
  | namedUnlessNull phrase key v => .named (.guarded .unlessNull) phrase key v
  | namedUnlessEmpty phrase key v => .named (.guarded .unlessEmpty) phrase key v
  | namedUnlessBlank phrase key v => .named (.guarded .unlessBlank) phrase key v
  | namedList phrase key vs => .namedList true phrase key vs
  | namedListIf condition phrase key vs => .namedList condition phrase key vs
  | namedPatternWith condition w phrase key v => .namedPattern (.when condition) w phrase key v
  | namedPattern phrase key v => .namedPattern (.when true) .both phrase key v
  | namedPatternBefore phrase key v => .namedPattern (.when true) .before phrase key v
  | namedPatternAfter phrase key v => .namedPattern (.when true) .after phrase key v
  | namedPatternUnlessBlank phrase key v => .namedPattern (.guarded .unlessBlank) .both phrase key v
  | pairs phrase kvs => .pairs true phrase kvs
  | pairsIf condition phrase kvs => .pairs condition phrase kvs
  | keys phrase ks vs => .keys true phrase ks vs
  | keysIf condition phrase ks vs => .keys condition phrase ks vs

/-- The draft after a call of one method. -/
def call (d : Draft) (m : Method) : Except StatementError Draft := d.perform m.step

/-- The draft after calls of methods one after the other; one that fails leaves it as it was. -/
def calls (d : Draft) (methods : List Method) : Draft := d.run (methods.map (·.step))

end SqlRecords.Draft
