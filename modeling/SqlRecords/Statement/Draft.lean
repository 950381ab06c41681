import SqlRecords.Statement.Bindings
import SqlRecords.Statement.Error
import SqlRecords.Text.Blank
import SqlRecords.Text.Pieces

/-!
# Drafts

A draft grows phrase by phrase, each with the values it binds by position or by name. A phrase
whose guard does not hold leaves no trace.
-/

namespace SqlRecords

/-- SQL text under construction, with its parameters. -/
structure Draft where
  text : String := ""
  params : List Value := []
  named : Bindings := .empty
  /-- Every phrase is followed by a blank. -/
  spaced : Bool := false

namespace Draft

/-- What a phrase binds. -/
inductive Binding where
  | nothing
  | positional (vs : List Value)
  /-- The placeholders of the list are written behind the phrase. -/
  | membership (vs : List Value)
  | pattern (w : Wildcard) (v : Value)
  | named (pairs : List (String × Value))
  | namedPattern (w : Wildcard) (key : String) (v : Value)

/-- Which values a phrase is appended for. -/
inductive Guard where
  | always
  | unlessNull
  | unlessEmpty
  | unlessBlank
  deriving DecidableEq

/-- The value passes the guard. -/
def Guard.admits : Guard → Value → Bool
  | always, _ => true
  | unlessNull, v => !v.isNull
  | unlessEmpty, v => !v.isEmpty
  | unlessBlank, v => !v.isBlank

/-- The text that a phrase adds. -/
def phraseText (spaced : Bool) (phrase : String) : Binding → String
  | .membership vs =>
    phrase ++ " (" ++ Text.repeated "?" "," vs.length ++ ") " ++ (if spaced then " " else "")
  | _ => phrase ++ (if spaced then " " else "")

/-- The positional parameters that a phrase adds. -/
def Binding.params : Binding → List Value
  | positional vs => vs
  | membership vs => vs
  | pattern w v => [.text (w.wrap v)]
  | _ => []

/-- The named parameters that a phrase binds, in order. -/
def Binding.pairs : Binding → List (String × Value)
  | named pairs => pairs
  | namedPattern w key v => [(key, .text (w.wrap v))]
  | _ => []

/-- The draft with one more phrase. -/
def append (d : Draft) (phrase : String) (binding : Binding := .nothing) : Draft :=
  { d with
    text := d.text ++ phraseText d.spaced phrase binding
    params := d.params ++ binding.params
    named := d.named.extend binding.pairs }

/-- The draft with one more phrase when `condition` holds. -/
def appendIf (d : Draft) (condition : Bool) (phrase : String) (binding : Binding := .nothing) :
    Draft :=
  if condition then d.append phrase binding else d

/-- The draft with one more phrase for a value that passes the guard. -/
def appendGuarded (d : Draft) (guard : Guard) (phrase : String) (v : Value)
    (binding : Value → Binding) : Draft :=
  d.appendIf (guard.admits v) phrase (binding v)

/-- The keys of a list with commas, without blanks around them; blank keys are dropped. -/
def keysOf (keys : String) : List String :=
  ((Text.split ',' keys).map Text.trim).filter (!·.isEmpty)

/-- The draft with one more phrase that binds a list of keys to as many values. -/
def appendKeys (d : Draft) (phrase keys : String) (values : List Value) :
    Except StatementError Draft :=
  let names := keysOf keys
  if names.length = values.length then .ok (d.append phrase (.named (names.zip values)))
  else .error (.argumentMismatch names.length values.length)

/-- The draft with keys and values when `condition` holds. -/
def appendKeysIf (d : Draft) (condition : Bool) (phrase keys : String) (values : List Value) :
    Except StatementError Draft :=
  if condition then d.appendKeys phrase keys values else .ok d

/-- Nothing has been written. -/
def isEmpty (d : Draft) : Bool := d.text.isEmpty

end Draft

end SqlRecords
