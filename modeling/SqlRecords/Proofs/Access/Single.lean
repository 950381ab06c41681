import SqlRecords.Proofs.Access.Alignment
import SqlRecords.Proofs.Access.Answers
import SqlRecords.Proofs.Filter.Text

/-!
# Operations of one statement

A `SingleOperation` puts its statement together, hands it over, and reads the answer, in this
order. `SingleOperation.run_single` shows that it hands over at most one statement, and that all
its own reasons to refuse the arguments come before that.
-/

namespace SqlRecords

variable {σ α β : Type}

/-- The executor answers the call with an error of the statement. -/
def Executor.Refuses (x : Executor σ) (world : σ) (e : StatementError) : Call → Prop
  | .query s => (x.query s world).1 = .error (.statement e)
  | .execute s => (x.execute s world).1 = .error (.statement e)

theorem bindable_error {vs : List Value} {e : StatementError} (failed : bindable vs = .error e) :
    e = .invalidArgument .listInPlace := by
  induction vs with
  | nil => cases failed
  | cons v rest ih =>
    rw [bindable.eq_def] at failed
    split at failed
    · cases failed
    · exact (Except.error.inj failed).symm
    · rename_i later
      obtain ⟨rfl, rfl⟩ := List.cons.inj later
      exact ih failed

theorem Executor.refuses_of_refusingLists {x : Executor σ} {world : σ} {e : StatementError}
    {call : Call} (refuses : x.refusingLists.Refuses world e call) :
    e = .invalidArgument .listInPlace ∨ x.Refuses world e call := by
  cases call with
  | query s | execute s =>
    simp only [Refuses, refusingLists] at refuses
    split at refuses
    · rename_i e' unbound
      obtain rfl : e' = e := AccessError.statement.inj (Except.error.inj refuses)
      exact .inl (bindable_error unbound)
    · exact .inr refuses

/-- The reasons to refuse the arguments of an operation. -/
inductive ArgumentFault : StatementError → Prop where
  | range (field : String) (count : Nat) : ArgumentFault (.invalidArgument (.rangeEnds field count))
  | page (page size : Int) : ArgumentFault (.invalidArgument (.pageOutOfRange page size))
  | inserted : ArgumentFault (.invalidArgument .noInsertColumns)
  | columns : ArgumentFault (.invalidArgument .noColumns)
  | key (type : String) : ArgumentFault (.invalidArgument (.noKey type))
  | unmapped (keys : List String) : ArgumentFault (.invalidArgument (.unmappedKey keys))
  | missing (name : String) : ArgumentFault (.missingParameter name)
  | empty (name : String) : ArgumentFault (.invalidArgument (.emptyList name))

/-- How an operation ends that has one statement to hand over, or none for want of arguments. -/
structure Single (x : Executor σ) (world : σ) (statement : Except StatementError Statement)
    (outcome : Except AccessError α) (calls : List Call) : Prop where
  once : calls.length ≤ 1
  /-- What keeps the statement from being put together is reported, and nothing is handed over. -/
  refuses : ∀ e, statement = .error e → outcome = .error (.statement e) ∧ calls = []
  hands : ∀ s, statement = .ok s → ∃ call, calls = [call] ∧ call.statement = s
  /-- Behind a call an error of a statement can only be the executor's own answer to this call. -/
  before : ∀ e, outcome = .error (.statement e) →
    calls = [] ∨ ∃ call, calls = [call] ∧ x.Refuses world e call

/-- How a step ends that hands `s` over. -/
def Asked (x : Executor σ) (world : σ) (s : Statement) (outcome : Except AccessError α)
    (calls : List Call) : Prop :=
  ∃ call, calls = [call] ∧ call.statement = s ∧
    ∀ e, outcome = .error (.statement e) → x.Refuses world e call

namespace Single

variable {x : Executor σ} {world : σ}

theorem refused (e : StatementError) :
    Single x world (.error e) (.error (.statement e) : Except AccessError α) [] where
  once := Nat.zero_le 1
  refuses := fun e' same => by
    obtain rfl := Except.error.inj same
    exact ⟨rfl, rfl⟩
  hands := nofun
  before := fun _ _ => .inl rfl

theorem of_asked {s : Statement} {outcome : Except AccessError α} {calls : List Call}
    (asked : Asked x world s outcome calls) : Single x world (.ok s) outcome calls := by
  obtain ⟨call, rfl, rfl, own⟩ := asked
  constructor
  case once => exact Nat.le_refl 1
  case refuses => exact nofun
  case hands =>
    intro s same
    obtain rfl := Except.ok.inj same
    exact ⟨call, rfl, rfl⟩
  case before => exact fun e failed => .inr ⟨call, rfl, own e failed⟩

/-- The check of lists behind the call does not get in the way: whatever is wrong with the
arguments themselves is said before anything is handed over. -/
theorem nothing_of_fault {statement : Except StatementError Statement}
    {outcome : Except AccessError α} {calls : List Call} {e : StatementError}
    (single : Single x.refusingLists world statement outcome calls)
    (plain : ∀ call, ¬ x.Refuses world e call) (fault : ArgumentFault e)
    (failed : outcome = .error (.statement e)) : calls = [] := by
  rcases single.before e failed with none | ⟨call, -, refuses⟩
  · exact none
  · rcases Executor.refuses_of_refusingLists refuses with rfl | own
    · cases fault
    · exact absurd own (plain call)

end Single

namespace Access

/-! ### Steps that read an answer -/

/-- The operation hands nothing over, and does not refuse its arguments. -/
def Reads (m : Access (σ × List Call) α) : Prop :=
  m.Traces fun outcome calls => calls = [] ∧ ∀ e, outcome ≠ .error (.statement e)

theorem reads_pure (a : α) : (pure a : Access (σ × List Call) α).Reads :=
  fun session => ⟨[], (List.append_nil session.world.2).symm, rfl, nofun⟩

theorem reads_unexpected (reason : String) :
    (throw (.unexpected reason) : Access (σ × List Call) α).Reads :=
  fun session => ⟨[], (List.append_nil session.world.2).symm, rfl, nofun⟩

theorem reads_mapped (r : Except MappingError α) :
    (mapped r : Access (σ × List Call) α).Reads := by
  intro session
  refine ⟨[], (List.append_nil session.world.2).symm, rfl, ?_⟩
  cases r <;> exact nofun

theorem reads_read (r : Except ConversionError α) : (read r : Access (σ × List Call) α).Reads := by
  intro session
  refine ⟨[], (List.append_nil session.world.2).symm, rfl, ?_⟩
  cases r <;> exact nofun

theorem reads_mapper (T : RecordType) :
    (Gateway.mapper T : Access (σ × List Call) Mapper).Reads :=
  fun session => ⟨[], (List.append_nil session.world.2).symm, rfl, nofun⟩

theorem Reads.bind {m : Access (σ × List Call) α} {f : α → Access (σ × List Call) β}
    (first : m.Reads) (goesOn : ∀ a, (f a).Reads) : (m >>= f).Reads := by
  refine Traces.bind first ?_ ?_
  · rintro e calls ⟨none, own⟩
    exact ⟨none, fun e' same => own e' (by rw [Except.error.inj same])⟩
  · rintro a calls ⟨rfl, -⟩
    exact goesOn a

variable {x : Executor σ} {session : Session (σ × List Call)} {s : Statement}

theorem asked_bind_tracesFrom {m : Access (σ × List Call) α} {f : α → Access (σ × List Call) β}
    (first : TracesFrom session m (Asked x session.world.1 s)) (rest : ∀ a, (f a).Reads) :
    TracesFrom session (m >>= f) (Asked x session.world.1 s) := by
  obtain ⟨calls, grown, call, rfl, isCall, own⟩ := first
  rw [TracesFrom, bind_apply]
  -- Reading the answer adds neither calls nor errors of the statement.
  rcases ended : m session with ⟨e | a, next⟩
  · rw [ended] at grown own
    exact ⟨[call], grown, call, rfl, isCall, fun e' same => own e' (by rw [Except.error.inj same])⟩
  · rw [ended] at grown
    obtain ⟨more, extended, rfl, reads⟩ := rest a next
    refine ⟨[call], ?_, call, rfl, isCall, fun e failed => absurd failed (reads e)⟩
    rw [extended, List.append_nil]
    exact grown

theorem built_bind_single {r : Except StatementError Statement}
    {f : Statement → Access (σ × List Call) α}
    (one : ∀ s, TracesFrom session (f s) (Asked x session.world.1 s)) :
    TracesFrom session (built r >>= f) (Single x session.world.1 r) := by
  refine built_bind_tracesFrom ?_ ?_
  · rintro e rfl
    exact Single.refused e
  · rintro s rfl
    exact (one s).imp fun _ _ asked => Single.of_asked asked

theorem built_built_single {r : Except StatementError β} {make : β → Except StatementError Statement}
    {f : Statement → Access (σ × List Call) α}
    (one : ∀ s, TracesFrom session (f s) (Asked x session.world.1 s)) :
    TracesFrom session (built r >>= fun b => built (make b) >>= f)
      (Single x session.world.1 (r >>= make)) := by
  cases r with
  | error e => exact tracesFrom_throw (Single.refused e)
  | ok b =>
    rw [built_ok_bind]
    exact built_bind_single one

end Access

namespace Gateway

open Access

variable {session : Session (σ × List Call)}

theorem query_asked (g : Gateway σ) (s : Statement) :
    TracesFrom session (g.recording.query s) (Asked g.executor session.world.1 s) :=
  ⟨[.query s], rfl, .query s, rfl, rfl, fun _ failed => failed⟩

theorem execute_asked (g : Gateway σ) (s : Statement) :
    TracesFrom session (g.recording.execute s) (Asked g.executor session.world.1 s) :=
  ⟨[.execute s], rfl, .execute s, rfl, rfl, fun _ failed => failed⟩

theorem affected_asked (g : Gateway σ) (s : Statement) :
    TracesFrom session (g.recording.affected s) (Asked g.executor session.world.1 s) :=
  asked_bind_tracesFrom (g.execute_asked s) fun _ => reads_pure _

theorem countOf_asked (g : Gateway σ) (s : Statement) :
    TracesFrom session (g.recording.countOf s) (Asked g.executor session.world.1 s) := by
  have value : TracesFrom session (g.recording.firstValue s) (Asked g.executor session.world.1 s) :=
    asked_bind_tracesFrom (g.query_asked s) fun _ => reads_pure _
  refine asked_bind_tracesFrom value fun v => ?_
  cases v with
  | none => exact reads_pure _
  | some v => exact (reads_read _).bind fun _ => reads_pure _

theorem firstOf_asked (g : Gateway σ) (T : RecordType) (s : Statement) :
    TracesFrom session (g.recording.firstOf T s) (Asked g.executor session.world.1 s) := by
  refine asked_bind_tracesFrom (g.query_asked s) fun rows => ?_
  cases rows with
  | nil => exact reads_pure _
  | cons row rest =>
    exact (reads_mapper T).bind fun _ => (reads_mapped _).bind fun _ => reads_pure _

theorem listOf_asked (g : Gateway σ) (T : RecordType) (s : Statement) :
    TracesFrom session (g.recording.listOf T s) (Asked g.executor session.world.1 s) :=
  asked_bind_tracesFrom (g.query_asked s) fun _ => (reads_mapper T).bind fun _ => reads_mapped _

theorem executeTemplate_single (g : Gateway σ) (template : String) (params : Bindings)
    (read : Reply → β) :
    TracesFrom session
      (do return read (← g.recording.executeTemplate template params))
      (Single g.executor session.world.1 (Template.expand template params)) := by
  change TracesFrom session ((built (Template.expand template params) >>= g.recording.execute) >>=
    fun reply => pure (read reply)) _
  rw [bind_assoc]
  exact built_bind_single fun s =>
    asked_bind_tracesFrom (g.execute_asked s) fun _ => reads_pure _

/-! ### Why a statement is not put together -/

section Faults

variable {table : String} {cs : List Criterion} {e : StatementError}

theorem fault_of_text (failed : Filter.text cs = .error e) : ArgumentFault e := by
  obtain ⟨-, c, -, -, -, -, rfl⟩ := (Filter.text_error_iff cs e).mp failed
  exact .range _ _

theorem fault_of_filtered {select : Select} (failed : select.filtered cs = .error e) :
    ArgumentFault e := by
  rcases bind_error failed with unrendered | ⟨t, -, failed⟩
  · exact fault_of_text unrendered
  · split at failed
    · cases failed
    · split at failed <;> cases failed

theorem fault_of_build (failed : Filter.build cs = .error e) : ArgumentFault e :=
  fault_of_text (map_error failed)

theorem fault_of_selection (failed : selection table cs = .error e) : ArgumentFault e :=
  fault_of_filtered (bind_pure_error failed)

theorem fault_of_counting (failed : counting table cs = .error e) : ArgumentFault e :=
  fault_of_filtered (bind_pure_error failed)

theorem fault_of_pageSelection {page size : Int}
    (failed : pageSelection table page size cs = .error e) : ArgumentFault e := by
  rcases bind_error failed with unselected | ⟨s, -, failed⟩
  · exact fault_of_selection unselected
  have outside : limitText page size = .error e := bind_pure_error failed
  rw [limitText] at outside
  split at outside
  · cases outside
  · obtain rfl := Except.error.inj outside
    exact .page page size

theorem fault_of_deletion (failed : deletion table cs = .error e) : ArgumentFault e :=
  fault_of_build (bind_pure_error failed)

theorem fault_of_updating {a : Assignments} (failed : updating table a cs = .error e) :
    ArgumentFault e :=
  fault_of_build (bind_pure_error failed)

theorem fault_of_insertion {values : List (String × Value)}
    (failed : insertion table values = .error e) : ArgumentFault e := by
  have nothing : insertText table
      ((values.filter fun entry => !entry.2.isNull).map (·.1)) = .error e := bind_pure_error failed
  rw [insertText] at nothing
  split at nothing
  · obtain rfl := Except.error.inj nothing
    exact .inserted
  · cases nothing

theorem fault_of_keyOf {T : RecordType} (failed : keyOf T = .error e) : ArgumentFault e := by
  rw [keyOf] at failed
  split at failed
  · obtain rfl := Except.error.inj failed
    exact .key T.name
  · cases failed

theorem fault_of_updateByKeyStatement {key : List String} {values : List (String × Value)}
    (failed : updateByKeyStatement table key values = .error e) : ArgumentFault e := by
  rw [updateByKeyStatement_eq rfl rfl] at failed
  split at failed
  · obtain rfl := Except.error.inj failed
    exact .columns
  · cases failed

theorem fault_of_deleteByKeyStatement {key : List String} {values : List (String × Value)}
    (failed : deleteByKeyStatement table key values = .error e) : ArgumentFault e := by
  simp only [deleteByKeyStatement] at failed
  split at failed
  · obtain rfl := Except.error.inj failed
    exact .unmapped key
  · cases failed

theorem fault_of_bind {name : String} {v : Value} (failed : Template.bind name v = .error e) :
    ArgumentFault e := by
  rw [Template.bind.eq_def] at failed
  split at failed
  · obtain rfl := Except.error.inj failed
    exact .empty name
  · cases failed
  · cases failed

theorem fault_of_piece {params : Bindings} {piece : Template.Piece}
    (failed : piece.expand params = .error e) : ArgumentFault e := by
  cases piece with
  | char c => cases failed
  | placeholder name =>
    rw [Template.Piece.expand] at failed
    split at failed
    · exact fault_of_bind failed
    · obtain rfl := Except.error.inj failed
      exact .missing name

theorem fault_of_expandPieces {params : Bindings} {pieces : List Template.Piece}
    (failed : Template.expandPieces params pieces = .error e) : ArgumentFault e := by
  induction pieces with
  | nil => cases failed
  | cons piece rest ih =>
    rcases bind_error failed with here | ⟨first, -, failed⟩
    · exact fault_of_piece here
    exact ih (bind_pure_error failed)

end Faults

end Gateway

/-! ### The operations -/

/-- Only a page hands over more than one statement. -/
def Operation.isPage : Operation → Bool
  | page _ _ _ _ => true
  | _ => false

/-- An operation that hands over one statement, which it writes itself or makes from a template. -/
inductive SingleOperation where
  | written (op : Operation) (single : op.isPage = false)
  | listOfTemplate (T : RecordType) (template : String) (params : Bindings)
  | countOfTemplate (template : String) (params : Bindings)
  | updateByTemplate (template : String) (params : Bindings)
  | insertByTemplate (template : String) (params : Bindings)

/-- The statement that the operation hands over first. -/
def Operation.statement (g : Gateway σ) : Operation → Except StatementError Statement
  | first T cs | list T cs => Gateway.selection (g.tableOf T) cs
  | listOnPage T number size cs => Gateway.pageSelection (g.tableOf T) number size cs
  | rows cs => Gateway.selection g.table cs
  | count cs => Gateway.counting g.table cs
  | page T _ _ cs => Gateway.counting (g.tableOf T) cs
  | insert T r | insertForId T r => Gateway.insertion (g.tableOf T) (T.values r)
  | update a cs => Gateway.updating g.table a cs
  | updateByKey T r skipNull =>
    Gateway.keyOf T >>= fun key => Gateway.updateByKeyStatement (g.tableOf T) key
      ((T.values r).filter fun entry => !(skipNull && entry.2.isNull))
  | delete cs => Gateway.deletion g.table cs
  | deleteByKey T r =>
    Gateway.keyOf T >>= fun key => Gateway.deleteByKeyStatement (g.tableOf T) key (T.values r)

namespace SingleOperation

open Gateway Access

def Answer : SingleOperation → Type
  | written op _ => op.Answer
  | listOfTemplate T _ _ => List T.Carrier
  | countOfTemplate _ _ => Int
  | updateByTemplate _ _ => Nat
  | insertByTemplate _ _ => Option Nat

def run (g : Gateway σ) : (op : SingleOperation) → Access σ op.Answer
  | written op _ => op.run g
  | listOfTemplate T template params => g.listOfTemplate T template params
  | countOfTemplate template params => g.countOfTemplate template params
  | updateByTemplate template params => g.updateByTemplate template params
  | insertByTemplate template params => g.insertByTemplate template params

def statement (g : Gateway σ) : SingleOperation → Except StatementError Statement
  | written op _ => op.statement g
  | listOfTemplate _ template params | countOfTemplate template params
  | updateByTemplate template params | insertByTemplate template params =>
    Template.expand template params

theorem fault_of_statement (g : Gateway σ) {op : SingleOperation} {e : StatementError}
    (failed : op.statement g = .error e) : ArgumentFault e := by
  cases op with
  | listOfTemplate | countOfTemplate | updateByTemplate | insertByTemplate =>
    exact fault_of_expandPieces failed
  | written op =>
    cases op with
    | first | list | rows => exact fault_of_selection failed
    | listOnPage => exact fault_of_pageSelection failed
    | count | page => exact fault_of_counting failed
    | insert | insertForId => exact fault_of_insertion failed
    | update => exact fault_of_updating failed
    | delete => exact fault_of_deletion failed
    | updateByKey =>
      rcases bind_error failed with noKey | ⟨key, -, failed⟩
      · exact fault_of_keyOf noKey
      · exact fault_of_updateByKeyStatement failed
    | deleteByKey =>
      rcases bind_error failed with noKey | ⟨key, -, failed⟩
      · exact fault_of_keyOf noKey
      · exact fault_of_deleteByKeyStatement failed

theorem run_mirrors (g : Gateway σ) (op : SingleOperation) :
    (op.run g.recording).Mirrors (op.run g) := by
  cases op with
  | written op => exact op.run_mirrors g
  | listOfTemplate T => exact (mirrors_built _).bind (g.listOf_mirrors T)
  | countOfTemplate => exact (mirrors_built _).bind g.countOf_mirrors
  | updateByTemplate | insertByTemplate =>
    exact ((mirrors_built _).bind g.execute_mirrors).bind fun _ => mirrors_pure _

theorem run_tracesFrom (g : Gateway σ) (op : SingleOperation)
    (session : Session (σ × List Call)) :
    TracesFrom session (op.run g.recording)
      (Single g.executor session.world.1 (op.statement g)) := by
  cases op with
  | listOfTemplate T template params => exact built_bind_single (g.listOf_asked T)
  | countOfTemplate template params => exact built_bind_single g.countOf_asked
  | updateByTemplate template params => exact g.executeTemplate_single template params Reply.affected
  | insertByTemplate template params => exact g.executeTemplate_single template params Reply.insertId
  | written op single =>
    cases op with
    | page => cases single
    | first T => exact built_bind_single (g.firstOf_asked T)
    | list T | listOnPage T => exact built_bind_single (g.listOf_asked T)
    | rows => exact built_bind_single g.query_asked
    | count => exact built_bind_single g.countOf_asked
    | insert | update | delete => exact built_bind_single g.affected_asked
    | insertForId =>
      refine built_bind_single fun s => asked_bind_tracesFrom (g.execute_asked s) fun reply => ?_
      cases reply.insertId with
      | some id => exact reads_pure _
      | none => exact reads_unexpected _
    | updateByKey | deleteByKey => exact built_built_single g.affected_asked

/-- An operation of one statement hands over at most this one. If it ends with an error of its
arguments it has handed nothing over: behind a call there are only the errors of the executor, and
those of the rows that it answers with. So it is too where the executor refuses lists itself and has
no errors of arguments beyond. -/
theorem run_single (g : Gateway σ) (op : SingleOperation) (session : Session (σ × List Call)) :
    (∀ e, op.statement g = .error e → ArgumentFault e) ∧
      TracesFrom session (op.run g.recording)
        (Single g.executor session.world.1 (op.statement g)) ∧
      ∀ x : Executor σ, g.executor = x.refusingLists →
        (∀ e call, ArgumentFault e → ¬ x.Refuses session.world.1 e call) →
          TracesFrom session (op.run g.recording) fun outcome calls =>
            ∀ e, ArgumentFault e → outcome = .error (.statement e) → calls = [] := by
  have single := op.run_tracesFrom g session
  refine ⟨fun e => fault_of_statement g, single, fun x refusing plain => ?_⟩
  rw [refusing] at single
  exact single.imp fun _ _ ended e fault failed =>
    ended.nothing_of_fault (fun call => plain e call fault) fault failed

end SingleOperation

end SqlRecords
