/-!
# TOML documents

A document is a table. Where a table came from decides what may still be added to it: a header
opens each table once, dotted keys add to tables of dotted keys only, and nothing is added to a
table in braces.
-/

namespace SqlRecords

/-- Where a table came from. -/
inductive Toml.Origin where
  /-- A header of its own. -/
  | header
  /-- The header of a table inside it. -/
  | implied
  /-- A dotted key. -/
  | dotted
  /-- Braces. -/
  | braces
  deriving DecidableEq

/-- A value of a document. -/
inductive Toml where
  | string (s : String)
  | integer (n : Int)
  | float (x : Float)
  | bool (b : Bool)
  /-- A date, a time or both, as written. -/
  | time (s : String)
  | array (items : List Toml)
  | table (origin : Toml.Origin) (entries : List (String × Toml))
  /-- The tables under headers in double brackets; the last one comes first. -/
  | tables (last : List (String × Toml)) (earlier : List (List (String × Toml)))

namespace Toml

/-- The entries of a table, in order. -/
abbrev Entries := List (String × Toml)

/-- The value of a key. -/
def get? (entries : Entries) (key : String) : Option Toml := entries.lookup key

/-- The entries with another value for a key that is among them. -/
def replace (entries : Entries) (key : String) (v : Toml) : Entries :=
  entries.map fun entry => if entry.1 = key then (key, v) else entry

/-- The entries with a key that is not yet among them. -/
def add? (entries : Entries) (key : String) (v : Toml) : Option Entries :=
  if (get? entries key).isSome then none else some (entries ++ [(key, v)])

/-- Changes the table behind a path of header keys. Tables on the way that are missing are implied;
of the tables under double brackets the last one is meant. -/
def atHeader (change : Entries → Option Entries) : List String → Entries → Option Entries
  | [], entries => change entries
  | key :: path, entries =>
    match get? entries key with
    | none => (atHeader change path []).map fun inner => entries ++ [(key, .table .implied inner)]
    | some (.table origin inner) =>
      if origin = .braces then none
      else (atHeader change path inner).map fun inner => replace entries key (.table origin inner)
    | some (.tables last earlier) =>
      (atHeader change path last).map fun last => replace entries key (.tables last earlier)
    | some _ => none

/-- Adds a value behind a dotted key: tables on the way are missing or were made without a header
of their own, and the innermost one was made by a dotted key. -/
def addDotted? (origin : Origin) (v : Toml) : List String → Entries → Option Entries
  | [], _ => none
  | [key], entries => if origin = .implied then none else add? entries key v
  | key :: path, entries =>
    match get? entries key with
    | none =>
      (addDotted? .dotted v path []).map fun inner => entries ++ [(key, .table .dotted inner)]
    | some (.table inside inner) =>
      if inside = .implied ∨ inside = .dotted then
        (addDotted? inside v path inner).map fun inner => replace entries key (.table inside inner)
      else none
    | some _ => none

/-- Opens the table of a header: it is new, or so far only implied. -/
def openTable? (key : String) (entries : Entries) : Option Entries :=
  match get? entries key with
  | none => some (entries ++ [(key, .table .header [])])
  | some (.table .implied inner) => some (replace entries key (.table .header inner))
  | some _ => none

/-- Opens the next table of a header in double brackets. -/
def openNext? (key : String) (entries : Entries) : Option Entries :=
  match get? entries key with
  | none => some (entries ++ [(key, .tables [] [])])
  | some (.tables last earlier) => some (replace entries key (.tables [] (last :: earlier)))
  | some _ => none

end Toml

end SqlRecords
