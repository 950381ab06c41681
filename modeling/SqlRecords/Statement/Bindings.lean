import SqlRecords.Value.Basic

/-!
# Statements and named parameters

A `Statement` is SQL text with a question mark for each of its parameters. `Bindings` are
parameters by name; binding a name again replaces its value.
-/

namespace SqlRecords

/-- SQL text and the values of its placeholders, in order. -/
structure Statement where
  text : String
  params : List Value

/-- Values by name, each name once. -/
structure Bindings where
  entries : List (String × Value)

namespace Bindings

/-- Nothing is bound. -/
def empty : Bindings := ⟨[]⟩

instance : Inhabited Bindings := ⟨empty⟩

/-- The value bound to a name. -/
def get? (b : Bindings) (name : String) : Option Value :=
  (b.entries.find? fun entry => entry.1 = name).map (·.2)

/-- `name` bound to `v` and to nothing else. -/
def insert (b : Bindings) (name : String) (v : Value) : Bindings :=
  ⟨b.entries.filter (fun entry => entry.1 ≠ name) ++ [(name, v)]⟩

/-- The pairs bound one after the other; of two values for a name the later one stays. -/
def extend (b : Bindings) (pairs : List (String × Value)) : Bindings :=
  pairs.foldl (fun b pair => b.insert pair.1 pair.2) b

/-- The bindings of a list of pairs. -/
def ofList (pairs : List (String × Value)) : Bindings := empty.extend pairs

end Bindings

end SqlRecords
