import SqlRecords.Access.Executor
import SqlRecords.Mapping.Registry
import SqlRecords.Paging.Page
import SqlRecords.Statement.Assignments
import SqlRecords.Statement.Select
import SqlRecords.Statement.Template
import SqlRecords.Statement.Update

/-!
# Gateways

A gateway reads and writes the records of a table. Each operation builds its statements, hands
them to the executor and maps the rows that come back; an error ends it, and what was run by then
has been run.
-/

namespace SqlRecords

/-- The state that operations run on. -/
structure Session (σ : Type) where
  world : σ
  registry : Registry := {}

/-- An operation on a database. -/
abbrev Access (σ α : Type) := ExceptT AccessError (StateM (Session σ)) α

namespace Access

variable {σ α : Type}

/-- The outcome of building something. -/
def built (r : Except StatementError α) : Access σ α :=
  ExceptT.mk (pure (r.mapError .statement))

/-- The outcome of mapping something. -/
def mapped (r : Except MappingError α) : Access σ α := ExceptT.mk (pure (r.mapError .mapping))

/-- The outcome of reading a value. -/
def read (r : Except ConversionError α) : Access σ α :=
  ExceptT.mk (pure (r.mapError .conversion))

end Access

/-- Reads and writes the records of a table. -/
structure Gateway (σ : Type) where
  executor : Executor σ
  /-- The table of records whose type names none. -/
  table : String
  /-- The letters before the keys of filters in requests. -/
  lead : String := FilterKey.defaultLead
  /-- The size of a page unless a request tells it. -/
  pageSize : Int := 20

namespace Gateway

variable {σ α : Type}

/-- The gateway with the lead and the page size of the settings. -/
def configured (g : Gateway σ) (q : QuerySettings) : Gateway σ :=
  { g with lead := q.lead, pageSize := q.pageSize.val }

/-- The table of the records of a type. -/
def tableOf (g : Gateway σ) (T : RecordType) : String := T.table.getD g.table

/-! ### Running -/

/-- The rows of a statement. -/
def query (g : Gateway σ) (s : Statement) : Access σ (List Row) := fun session =>
  let (r, world) := g.executor.query s session.world
  (r, { session with world })

/-- What a statement changed. -/
def execute (g : Gateway σ) (s : Statement) : Access σ Reply := fun session =>
  let (r, world) := g.executor.execute s session.world
  (r, { session with world })

/-- The number of rows that a statement changed. -/
def affected (g : Gateway σ) (s : Statement) : Access σ Nat := do
  return (← g.execute s).affected

/-- The mapper of a type, from the registry. -/
def mapper (T : RecordType) : Access σ Mapper := fun session =>
  let (m, registry) := session.registry.mapper T
  (.ok m, { session with registry })

/-! ### Single values and records -/

/-- The first value of the first row; null and a missing value are nothing. -/
def firstValue (g : Gateway σ) (s : Statement) : Access σ (Option Value) := do
  let rows ← g.query s
  return (rows.head?.bind fun row => row.at? 0).filter fun v => !v.isNull

/-- The first value of the first row, as one of the type. -/
def scalar (g : Gateway σ) (t : FieldType) (s : Statement) : Access σ (Option t.Carrier) := do
  match ← g.firstValue s with
  | none => return none
  | some v => return some (← Access.read (t.read v))

/-- The first value of the first row, as an integer; nothing counts as zero. -/
def countOf (g : Gateway σ) (s : Statement) : Access σ Int := do
  match ← g.firstValue s with
  | none => return 0
  | some v => return (← Access.read (BaseType.readInt .i64 v)).val

/-- The record of the first row. -/
def firstOf (g : Gateway σ) (T : RecordType) (s : Statement) : Access σ (Option T.Carrier) := do
  match ← g.query s with
  | [] => return none
  | row :: _ => return some (← Access.mapped ((← mapper T).mapRow T row))

/-- The records of all rows. -/
def listOf (g : Gateway σ) (T : RecordType) (s : Statement) : Access σ (List T.Carrier) := do
  let rows ← g.query s
  Access.mapped ((← mapper T).mapRows T rows)

/-! ### Filtered reads -/

/-- The statement that selects what a filter leaves of a table. -/
def selection (table : String) (cs : List Criterion) : Except StatementError Statement := do
  let select ← Select.filtered { table := table } cs
  return ⟨select.text, Filter.params cs⟩

/-- The statement that counts what a filter leaves of a table. -/
def counting (table : String) (cs : List Criterion) : Except StatementError Statement := do
  let select ← Select.filtered { table := table } cs
  return ⟨select.countText, Filter.params cs⟩

/-- The first record that a filter leaves. -/
def first (g : Gateway σ) (T : RecordType) (cs : List Criterion) :
    Access σ (Option T.Carrier) := do
  let s ← Access.built (selection (g.tableOf T) cs)
  g.firstOf T s

/-- The number of rows that a filter leaves of the gateway's own table. -/
def count (g : Gateway σ) (cs : List Criterion) : Access σ Int := do
  let s ← Access.built (counting g.table cs)
  g.countOf s

/-- The records that a filter leaves. -/
def list (g : Gateway σ) (T : RecordType) (cs : List Criterion) : Access σ (List T.Carrier) := do
  let s ← Access.built (selection (g.tableOf T) cs)
  g.listOf T s

/-- The statement that selects one page of what a filter leaves of a table. -/
def pageSelection (table : String) (page size : Int) (cs : List Criterion) :
    Except StatementError Statement := do
  let s ← selection table cs
  let limit ← limitText page size
  return ⟨s.text ++ limit, s.params⟩

/-- The records on one page, without a total. -/
def listOnPage (g : Gateway σ) (T : RecordType) (page size : Int) (cs : List Criterion) :
    Access σ (List T.Carrier) := do
  let s ← Access.built (pageSelection (g.tableOf T) page size cs)
  g.listOf T s

/-- The rows that a filter leaves of the gateway's own table. -/
def rows (g : Gateway σ) (cs : List Criterion) : Access σ (List Row) := do
  let s ← Access.built (selection g.table cs)
  g.query s

/-! ### Pages -/

/-- A page of what `data` selects, out of as many rows as `total` tells. -/
def pageOf (g : Gateway σ) (T : RecordType) (total data : Statement) (page size : Int) :
    Access σ (Page T.Carrier) :=
  paginate .statement page size (g.countOf total) fun window =>
    g.listOf T ⟨data.text ++ window.limit, data.params⟩

/-- A page of the records that a filter leaves. -/
def page (g : Gateway σ) (T : RecordType) (page size : Int) (cs : List Criterion) :
    Access σ (Page T.Carrier) := do
  let total ← Access.built (counting (g.tableOf T) cs)
  let data ← Access.built (selection (g.tableOf T) cs)
  g.pageOf T total data page size

/-- The filter that a request asks for. -/
def filterOfRequest (g : Gateway σ) (request : List (String × String)) :
    Except StatementError (List Criterion) := FilterKey.parseAll g.lead request

/-- A page of the records that a request asks for. -/
def pageOfRequest (g : Gateway σ) (T : RecordType) (page : Int) (size : Option Int)
    (request : List (String × String)) : Access σ (Page T.Carrier) := do
  let cs ← Access.built (g.filterOfRequest request)
  g.page T page (size.getD g.pageSize) cs

/-! ### Writes -/

/-- The statement that deletes what a filter leaves of a table. -/
def deletion (table : String) (cs : List Criterion) : Except StatementError Statement := do
  let s ← Filter.build cs
  return ⟨deleteTextWhere table s.text, s.params⟩

/-- Deletes what a filter leaves of the gateway's own table. -/
def delete (g : Gateway σ) (cs : List Criterion) : Access σ Nat := do
  let s ← Access.built (deletion g.table cs)
  g.affected s

/-- Deletes by a column `id` of the gateway's own table. -/
def deleteById (g : Gateway σ) (id : I64) : Access σ Nat :=
  g.affected ⟨"delete from " ++ g.table ++ " where id = ?", [.bigint id]⟩

/-- The statement that inserts the columns with their values; null is left out. -/
def insertion (table : String) (values : List (String × Value)) :
    Except StatementError Statement := do
  let values := values.filter fun entry => !entry.2.isNull
  let text ← insertText table (values.map (·.1))
  return ⟨text, values.map (·.2)⟩

/-- Inserts a record. -/
def insert (g : Gateway σ) (T : RecordType) (r : T.Carrier) : Access σ Nat := do
  let s ← Access.built (insertion (g.tableOf T) (T.values r))
  g.affected s

/-- Inserts a record; the key that the database makes for it. -/
def insertForId (g : Gateway σ) (T : RecordType) (r : T.Carrier) : Access σ Nat := do
  let s ← Access.built (insertion (g.tableOf T) (T.values r))
  match (← g.execute s).insertId with
  | some id => return id
  | none => throw (.unexpected ("no generated key for: " ++ s.text))

/-- The primary key of a type, which has to have one. -/
def keyOf (T : RecordType) : Except StatementError (List String) :=
  if T.key.isEmpty then .error (.invalidArgument (.noKey T.name)) else .ok T.key

/-- The statement that updates by the columns of a key all other columns. -/
def updateByKeyStatement (table : String) (key : List String) (values : List (String × Value)) :
    Except StatementError Statement := do
  let (keys, others) := values.partition fun entry => key.contains entry.1
  let update ← (Update.table table).setColumns (others.map (·.1))
  let text ← update.whereColumns (keys.map (·.1))
  return ⟨text, others.map (·.2) ++ keys.map (·.2)⟩

/-- Updates a record by its primary key. With `skipNull`, columns that are null stay as they
are in the table. -/
def updateByKey (g : Gateway σ) (T : RecordType) (r : T.Carrier) (skipNull : Bool) :
    Access σ Nat := do
  let key ← Access.built (keyOf T)
  let values := (T.values r).filter fun entry => !(skipNull && entry.2.isNull)
  let s ← Access.built (updateByKeyStatement (g.tableOf T) key values)
  g.affected s

/-- The statement that deletes by the columns of a key. -/
def deleteByKeyStatement (table : String) (key : List String) (values : List (String × Value)) :
    Except StatementError Statement :=
  let keys := values.filter fun entry => key.contains entry.1
  if keys.isEmpty then .error (.invalidArgument (.unmappedKey key))
  else .ok ⟨deleteTextByColumns table (keys.map (·.1)), keys.map (·.2)⟩

/-- Deletes a record by its primary key. -/
def deleteByKey (g : Gateway σ) (T : RecordType) (r : T.Carrier) : Access σ Nat := do
  let key ← Access.built (keyOf T)
  let s ← Access.built (deleteByKeyStatement (g.tableOf T) key (T.values r))
  g.affected s

/-- The statement that makes assignments where a filter holds. -/
def updating (table : String) (a : Assignments) (cs : List Criterion) :
    Except StatementError Statement := do
  let s ← Filter.build cs
  return ⟨((Update.table table).set a.phrase).whereText s.text, a.params ++ s.params⟩

/-- Makes assignments in the gateway's own table where a filter holds. -/
def update (g : Gateway σ) (a : Assignments) (cs : List Criterion) : Access σ Nat := do
  let s ← Access.built (updating g.table a cs)
  g.affected s

/-! ### Templates -/

/-- The records that a template selects. -/
def listOfTemplate (g : Gateway σ) (T : RecordType) (template : String) (params : Bindings) :
    Access σ (List T.Carrier) := do
  let s ← Access.built (Template.expand template params)
  g.listOf T s

/-- The integer that a template selects. -/
def countOfTemplate (g : Gateway σ) (template : String) (params : Bindings) : Access σ Int := do
  let s ← Access.built (Template.expand template params)
  g.countOf s

/-- A page of what the template `data` selects, out of as many rows as the template `total`
tells. The limit is part of the template that is expanded. -/
def pageOfTemplates (g : Gateway σ) (T : RecordType) (total data : String) (params : Bindings)
    (page size : Int) : Access σ (Page T.Carrier) := do
  let total ← Access.built (Template.expand total params)
  paginate .statement page size (g.countOf total) fun window => do
    let s ← Access.built (Template.expand (data ++ window.limit) params)
    g.listOf T s

/-- What a template changed. -/
def executeTemplate (g : Gateway σ) (template : String) (params : Bindings) : Access σ Reply := do
  let s ← Access.built (Template.expand template params)
  g.execute s

/-- The number of rows that a template changed. -/
def updateByTemplate (g : Gateway σ) (template : String) (params : Bindings) : Access σ Nat := do
  return (← g.executeTemplate template params).affected

/-- The key that the database made for a row that a template inserted. -/
def insertByTemplate (g : Gateway σ) (template : String) (params : Bindings) :
    Access σ (Option Nat) := do
  return (← g.executeTemplate template params).insertId

end Gateway

end SqlRecords
