import SqlRecords.Proofs.Access.Recording
import SqlRecords.Proofs.Statement.Built

/-!
# Values at their question marks

`Operation` gathers the operations that write their statements themselves. `Operation.run_binds`
shows that every statement that one of them hands to the executor binds the parts of the operation:
none of its values stands at the question mark of another column or predicate.
-/

namespace SqlRecords

variable {σ : Type}

/-- An operation that writes its statements itself, with its arguments. -/
inductive Operation where
  | first (T : RecordType) (cs : List Criterion)
  | list (T : RecordType) (cs : List Criterion)
  | listOnPage (T : RecordType) (number size : Int) (cs : List Criterion)
  | rows (cs : List Criterion)
  | count (cs : List Criterion)
  | page (T : RecordType) (number size : Int) (cs : List Criterion)
  | insert (T : RecordType) (r : T.Carrier)
  | insertForId (T : RecordType) (r : T.Carrier)
  | update (a : Assignments) (cs : List Criterion)
  | updateByKey (T : RecordType) (r : T.Carrier) (skipNull : Bool)
  | delete (cs : List Criterion)
  | deleteByKey (T : RecordType) (r : T.Carrier)

namespace Operation

/-- What the operation answers. -/
def Answer : Operation → Type
  | first T _ => Option T.Carrier
  | list T _ | listOnPage T _ _ _ => List T.Carrier
  | rows _ => List Row
  | count _ => Int
  | page T _ _ _ => Page T.Carrier
  | insert _ _ | insertForId _ _ | update _ _ | updateByKey _ _ _ | delete _ | deleteByKey _ _ =>
    Nat

/-- The operation on a gateway. -/
def run (g : Gateway σ) : (op : Operation) → Access σ op.Answer
  | first T cs => g.first T cs
  | list T cs => g.list T cs
  | listOnPage T number size cs => g.listOnPage T number size cs
  | rows cs => g.rows cs
  | count cs => g.count cs
  | page T number size cs => g.page T number size cs
  | insert T r => g.insert T r
  | insertForId T r => g.insertForId T r
  | update a cs => g.update a cs
  | updateByKey T r skipNull => g.updateByKey T r skipNull
  | delete cs => g.delete cs
  | deleteByKey T r => g.deleteByKey T r

/-- The table that the operation reads or writes. -/
def table (g : Gateway σ) : Operation → String
  | first T _ | list T _ | listOnPage T _ _ _ | page T _ _ _ | insert T _ | insertForId T _
  | updateByKey T _ _ | deleteByKey T _ => g.tableOf T
  | rows _ | count _ | update _ _ | delete _ => g.table

/-- The columns and fields that the operation is given. -/
def names : Operation → List String
  | first _ cs | list _ cs | listOnPage _ _ _ cs | rows cs | count cs | page _ _ _ cs | delete cs =>
    cs.map Criterion.field
  | insert T r | insertForId T r | updateByKey T r _ | deleteByKey T r => (T.values r).map (·.1)
  | update a cs => a.entries.map (·.1) ++ cs.map Criterion.field

/-- The parts that the statements of the operation bind, in order. -/
def parts : Operation → List Part
  | first _ cs | list _ cs | listOnPage _ _ _ cs | rows cs | count cs | page _ _ _ cs | delete cs =>
    Filter.parts cs
  | insert T r | insertForId T r => [.row ((T.values r).filter fun entry => !entry.2.isNull)]
  | update a cs => Part.equalities a.entries ++ Filter.parts cs
  | updateByKey T r skipNull =>
    let values := (T.values r).filter fun entry => !(skipNull && entry.2.isNull)
    Part.equalities (values.filter fun entry => !T.key.contains entry.1) ++
      Part.equalities (values.filter fun entry => T.key.contains entry.1)
  | deleteByKey T r => Part.equalities ((T.values r).filter fun entry => T.key.contains entry.1)

end Operation

/-- All that is handed over binds the parts, and only for want of a statement it is nothing. -/
structure Handed {α : Type} (parts : List Part) (outcome : Except AccessError α)
    (calls : List Call) : Prop where
  binds : ∀ call ∈ calls, call.statement.Binds parts
  something : calls = [] → ∃ e, outcome = .error (.statement e)

namespace Handed

variable {α : Type} {parts : List Part}

theorem nothing (e : StatementError) :
    Handed parts (.error (.statement e) : Except AccessError α) [] where
  binds := fun _ member => absurd member List.not_mem_nil
  something := fun _ => ⟨e, rfl⟩

theorem one {outcome : Except AccessError α} {call : Call} (binds : call.statement.Binds parts) :
    Handed parts outcome [call] where
  binds := fun c member => by
    rw [List.mem_singleton.mp member]
    exact binds
  something := fun none => absurd none (List.cons_ne_nil _ _)

end Handed

namespace Gateway

open Access

theorem built_handed {α : Type} {parts : List Part} {r : Except StatementError Statement}
    {f : Statement → Access (σ × List Call) α} {call : Statement → Call}
    (same : ∀ s, (call s).statement = s) (binds : ∀ s, r = .ok s → s.Binds parts)
    (one : ∀ s, (f s).Traces fun _ calls => calls = [call s]) :
    (built r >>= f).Traces (Handed parts) := by
  refine built_bind_traces (fun e _ => Handed.nothing e) fun s made => ?_
  refine (one s).imp fun outcome calls handed => ?_
  rw [handed]
  refine Handed.one ?_
  rw [same]
  exact binds s made

end Gateway

namespace Operation

open Gateway Access

/-- Recording an operation changes neither its answer nor the world. -/
theorem run_mirrors (g : Gateway σ) (op : Operation) : (op.run g.recording).Mirrors (op.run g) := by
  cases op with
  | first T cs => exact (mirrors_built _).bind (g.firstOf_mirrors T)
  | list T cs | listOnPage T number size cs => exact (mirrors_built _).bind (g.listOf_mirrors T)
  | rows cs => exact (mirrors_built _).bind g.query_mirrors
  | count cs => exact (mirrors_built _).bind g.countOf_mirrors
  | page T number size cs =>
    exact (mirrors_built _).bind fun total => (mirrors_built _).bind fun data =>
      g.pageOf_mirrors T total data number size
  | insertForId T r =>
    refine (mirrors_built _).bind fun s => (g.execute_mirrors s).bind fun reply => ?_
    cases reply.insertId with
    | some id => exact mirrors_pure _
    | none => exact mirrors_throw _
  | insert T r | update a cs | delete cs => exact (mirrors_built _).bind g.affected_mirrors
  | updateByKey T r skipNull | deleteByKey T r =>
    exact (mirrors_built _).bind fun key => (mirrors_built _).bind g.affected_mirrors

theorem clean_of_map {α : Type} {f : α → String} {xs : List α}
    (clean : ∀ name ∈ xs.map f, '?' ∉ name.toList) : ∀ x ∈ xs, '?' ∉ (f x).toList :=
  fun _ member => clean _ (List.mem_map_of_mem member)

/-- Every statement that an operation hands to the executor binds the parts of the operation, and
it hands none over only if none can be put together. -/
theorem run_binds (g : Gateway σ) (op : Operation) (cleanTable : '?' ∉ (op.table g).toList)
    (cleanNames : ∀ name ∈ op.names, '?' ∉ name.toList) :
    (op.run g.recording).Traces (Handed op.parts) := by
  cases op with
  | first T cs =>
    exact built_handed (fun _ => rfl)
      (fun s made => (selection_spells made cleanTable (clean_of_map cleanNames)).binds)
      (g.firstOf_traces T)
  | list T cs =>
    exact built_handed (fun _ => rfl)
      (fun s made => (selection_spells made cleanTable (clean_of_map cleanNames)).binds)
      (g.listOf_traces T)
  | listOnPage T number size cs =>
    exact built_handed (fun _ => rfl)
      (fun s made => (pageSelection_spells made cleanTable (clean_of_map cleanNames)).binds)
      (g.listOf_traces T)
  | rows cs =>
    exact built_handed (fun _ => rfl)
      (fun s made => (selection_spells made cleanTable (clean_of_map cleanNames)).binds)
      g.query_traces
  | count cs =>
    exact built_handed (fun _ => rfl)
      (fun s made => (counting_spells made cleanTable (clean_of_map cleanNames)).binds)
      g.countOf_traces
  | page T number size cs =>
    -- The total is asked for first; what follows it, if anything, is the data behind a limit.
    refine built_bind_traces (fun e _ => Handed.nothing e) fun total made => ?_
    have totals := (counting_spells made cleanTable (clean_of_map cleanNames)).binds
    refine built_bind_traces (fun e _ => Handed.nothing e) fun data made => ?_
    have selects := selection_spells made cleanTable (clean_of_map cleanNames)
    refine (g.pageOf_traces T total data number size).imp fun outcome calls handed => ?_
    rcases handed with rfl | ⟨w, rfl⟩
    · exact Handed.one totals
    · refine ⟨fun call member => ?_, fun none => absurd none (List.cons_ne_nil _ _)⟩
      rcases List.mem_cons.mp member with rfl | later
      · exact totals
      · obtain rfl := List.mem_singleton.mp later
        exact (selects.thenWords (clean_limitClause _ _)).binds
  | insert T r =>
    exact built_handed (fun _ => rfl)
      (fun s made => (insertion_spells made cleanTable (clean_of_map cleanNames)).binds)
      g.affected_traces
  | insertForId T r =>
    refine built_handed (show ∀ s, (Call.execute s).statement = s from fun _ => rfl)
      (fun s made => (insertion_spells made cleanTable (clean_of_map cleanNames)).binds) fun s => ?_
    refine (g.execute_traces s).bind_silent fun reply => ?_
    cases reply.insertId with
    | some id => exact silent_pure _
    | none => exact silent_throw _
  | update a cs =>
    have columns : ∀ entry ∈ a.entries, '?' ∉ entry.1.toList :=
      clean_of_map fun name member => cleanNames name (List.mem_append_left _ member)
    have fields : ∀ c ∈ cs, '?' ∉ c.field.toList :=
      clean_of_map fun name member => cleanNames name (List.mem_append_right _ member)
    exact built_handed (fun _ => rfl)
      (fun s made => (updating_spells made cleanTable columns fields).binds) g.affected_traces
  | updateByKey T r skipNull =>
    have columns := clean_of_map cleanNames
    refine keyOf_bind_traces (fun _ => Handed.nothing _) ?_
    exact built_handed (fun _ => rfl)
      (fun s made => (updateByKeyStatement_spells made cleanTable fun entry member =>
        columns entry (List.mem_filter.mp member).1).binds) g.affected_traces
  | delete cs =>
    exact built_handed (fun _ => rfl)
      (fun s made => (deletion_spells made cleanTable (clean_of_map cleanNames)).binds)
      g.affected_traces
  | deleteByKey T r =>
    refine keyOf_bind_traces (fun _ => Handed.nothing _) ?_
    exact built_handed (fun _ => rfl)
      (fun s made => (deleteByKeyStatement_spells made cleanTable (clean_of_map cleanNames)).binds)
      g.affected_traces

/-- Two assignments, one of them of null, where the filter `mixed` holds. -/
def mixedUpdate : Operation :=
  .update ⟨[("name", .text "?"), ("note", .null)]⟩ Filter.mixed

/-- A gateway on an empty script. -/
def scripted : Gateway Script := { executor := Script.executor, table := "t" }

theorem run_binds_mixedUpdate :
    '?' ∉ (mixedUpdate.table scripted).toList ∧ (∀ name ∈ mixedUpdate.names, '?' ∉ name.toList) ∧
      (mixedUpdate.run scripted.recording).Traces (Handed mixedUpdate.parts) :=
  ⟨by decide, by decide, run_binds scripted mixedUpdate (by decide) (by decide)⟩

end Operation

end SqlRecords
