import SqlRecords.Proofs.Access.Recording
import SqlRecords.Proofs.Mapping.Leaves
import SqlRecords.Proofs.Statement.Built

/-!
# Writing by a primary key

Which columns of its key a record is updated or deleted by. `byKey_compares_supplied` shows that
the where clause compares those that the record supplies; that these are all columns of the key is
nowhere checked.
-/

namespace SqlRecords

variable {σ : Type}

/-- A field that is written to tables has the column, and with `skipNull` it does not hold null. -/
def DeclaredType.Supplies (d : DeclaredType) (r : d.schema.Record) (skipNull : Bool)
    (column : String) : Prop :=
  ∃ leaf ∈ d.schema.leaves r, ∃ v, Schema.Writes leaf (column, v) ∧
    (skipNull = true → v.isNull = false)

/-- The record supplies a column of the key. -/
def DeclaredType.CanDelete (d : DeclaredType) (r : d.schema.Record) : Prop :=
  ∃ column ∈ d.primaryKey, d.Supplies r false column

/-- The record supplies a column of the key, and another one that can be set. -/
def DeclaredType.CanUpdate (d : DeclaredType) (r : d.schema.Record) (skipNull : Bool) : Prop :=
  (∃ column ∈ d.primaryKey, d.Supplies r skipNull column) ∧
    ∃ column, column ∉ d.primaryKey ∧ d.Supplies r skipNull column

/-- The text sets columns of the table to their placeholders. -/
def SetsColumns (table text : String) : Prop :=
  ∃ columns : List String,
    text = (Update.table table).text ++ ", ".intercalate (columns.map (· ++ " = ?")) ++ " "

/-- How an operation by a key ends and what it hands over, when it runs exactly if `ready` holds.
The text before the where clause is one of `starts`. -/
structure ByKey (key : List String) (supplied : String → Prop) (ready : Prop)
    (starts : String → Prop) (outcome : Except AccessError Nat) (calls : List Call) : Prop where
  /-- The where clause compares the columns of the key that are supplied, so all of them only if
  all of them are. -/
  runs : ready → ∃ s start columns, calls = [.execute s] ∧ starts start ∧
    s.text = start ++ "where " ++ equalities columns ∧
      (∀ column, column ∈ columns ↔ column ∈ key ∧ supplied column) ∧
        ((∀ column ∈ key, column ∈ columns) ↔ ∀ column ∈ key, supplied column)
  /-- Otherwise nothing is handed over. -/
  fails : ¬ ready → calls = [] ∧ ∃ cause, outcome = .error (.statement (.invalidArgument cause))

namespace ByKey

variable {key : List String} {supplied : String → Prop} {ready : Prop} {starts : String → Prop}

theorem refused (notReady : ¬ ready) (cause : InvalidArgument) :
    ByKey key supplied ready starts (.error (.statement (.invalidArgument cause))) [] where
  runs := fun isReady => absurd isReady notReady
  fails := fun _ => ⟨rfl, cause, rfl⟩

theorem ran {s : Statement} {start : String} {columns : List String}
    {outcome : Except AccessError Nat} (isReady : ready) (starting : starts start)
    (text : s.text = start ++ "where " ++ equalities columns)
    (listed : ∀ column, column ∈ columns ↔ column ∈ key ∧ supplied column) :
    ByKey key supplied ready starts outcome [.execute s] where
  runs := fun _ => by
    refine ⟨s, start, columns, rfl, starting, text, listed, ?_⟩
    constructor
    · exact fun all column member => ((listed column).mp (all column member)).2
    · exact fun all column member => (listed column).mpr ⟨member, all column member⟩
  fails := fun notReady => absurd isReady notReady

end ByKey

namespace Gateway

open Access

theorem mem_supplied_iff (d : DeclaredType) (r : d.schema.Record) (skipNull : Bool)
    (p : String → Bool) (column : String) :
    column ∈ (((d.schema.values r).filter fun entry => !(skipNull && entry.2.isNull)).filter
        fun entry => p entry.1).map (·.1) ↔
      p column = true ∧ d.Supplies r skipNull column := by
  simp only [List.mem_map, List.mem_filter, Schema.mem_values_iff]
  constructor
  · rintro ⟨⟨_, v⟩, ⟨⟨⟨leaf, member, writes⟩, kept⟩, holds⟩, rfl⟩
    exact ⟨holds, leaf, member, v, writes, fun skips => by simpa [skips] using kept⟩
  · rintro ⟨holds, leaf, member, v, writes, kept⟩
    have stays : (!(skipNull && v.isNull)) = true := by
      cases skipNull with
      | false => rfl
      | true => rw [kept rfl]; rfl
    exact ⟨(column, v), ⟨⟨⟨leaf, member, writes⟩, stays⟩, holds⟩, rfl⟩

theorem ne_nil_of_supplied {key : List String} {supplied : String → Prop}
    (some : ∃ column ∈ key, supplied column) : key ≠ [] := by
  obtain ⟨column, member, -⟩ := some
  exact List.ne_nil_of_mem member

theorem updateByKey_traces (g : Gateway σ) (d : DeclaredType) (r : d.schema.Record)
    (skipNull : Bool) :
    (g.recording.updateByKey d.toRecordType r skipNull).Traces
      (ByKey d.primaryKey (d.Supplies r skipNull) (d.CanUpdate r skipNull)
        (SetsColumns (g.tableOf d.toRecordType))) := by
  refine keyOf_bind_traces (T := d.toRecordType) (fun noKey =>
    ByKey.refused (fun isReady => ne_nil_of_supplied isReady.1 noKey) _) ?_
  have listed := mem_supplied_iff d r skipNull d.primaryKey.contains
  have rest := mem_supplied_iff d r skipNull fun column => !d.primaryKey.contains column
  generalize isKeys : ((d.schema.values r).filter fun entry => !(skipNull && entry.2.isNull)).filter
    (fun entry => d.primaryKey.contains entry.1) = keys at listed
  generalize isOthers : ((d.schema.values r).filter fun entry =>
    !(skipNull && entry.2.isNull)).filter (fun entry => !d.primaryKey.contains entry.1) = others
    at rest
  simp only [List.contains_iff_mem, Bool.not_eq_true', ← Bool.not_eq_true] at listed rest
  change (built (updateByKeyStatement (g.tableOf d.toRecordType) d.primaryKey
    ((d.schema.values r).filter fun entry => !(skipNull && entry.2.isNull))) >>=
      g.recording.affected).Traces _
  rw [updateByKeyStatement_eq isKeys isOthers]
  by_cases lacking : others = [] ∨ keys = []
  · rw [if_pos lacking]
    refine built_error_traces (ByKey.refused ?_ _)
    rintro ⟨⟨column, member, supplied⟩, other, notKey, otherSupplied⟩
    rcases lacking with rfl | rfl
    · exact List.not_mem_nil ((rest other).mpr ⟨notKey, otherSupplied⟩)
    · exact List.not_mem_nil ((listed column).mpr ⟨member, supplied⟩)
  · rw [if_neg lacking]
    obtain ⟨other, isOther⟩ := List.exists_mem_of_ne_nil _ (not_or.mp lacking).1
    obtain ⟨entry, isKey⟩ := List.exists_mem_of_ne_nil _ (not_or.mp lacking).2
    have keySupplied := (listed entry.1).mp (List.mem_map_of_mem isKey)
    have otherSupplied := (rest other.1).mp (List.mem_map_of_mem isOther)
    refine built_ok_traces ((g.affected_traces _).imp fun _ calls handed => ?_)
    rw [handed]
    refine ByKey.ran ⟨⟨entry.1, keySupplied⟩, other.1, otherSupplied⟩
      ⟨others.map (·.1), rfl⟩ ?_ listed
    simp only [List.map_map, Function.comp_def, String.append_assoc]

theorem deleteByKey_traces (g : Gateway σ) (d : DeclaredType) (r : d.schema.Record) :
    (g.recording.deleteByKey d.toRecordType r).Traces
      (ByKey d.primaryKey (d.Supplies r false) (d.CanDelete r)
        (· = deleteText (g.tableOf d.toRecordType))) := by
  refine keyOf_bind_traces (T := d.toRecordType) (fun noKey =>
    ByKey.refused (fun isReady => ne_nil_of_supplied isReady noKey) _) ?_
  have listed := mem_supplied_iff d r false d.primaryKey.contains
  have all : (d.schema.values r).filter (fun entry => !(false && entry.2.isNull)) =
      d.schema.values r := List.filter_eq_self.mpr fun _ _ => rfl
  rw [all] at listed
  change (built (deleteByKeyStatement (g.tableOf d.toRecordType) d.primaryKey
    (d.schema.values r)) >>= g.recording.affected).Traces _
  rw [deleteByKeyStatement]
  generalize (d.schema.values r).filter (fun entry => d.primaryKey.contains entry.1) = keys
    at listed ⊢
  simp only [List.contains_iff_mem] at listed
  cases keys with
  | nil =>
    refine built_error_traces (ByKey.refused ?_ _)
    rintro ⟨column, member, supplied⟩
    exact List.not_mem_nil ((listed column).mpr ⟨member, supplied⟩)
  | cons entry rest =>
    have here := (listed entry.1).mp List.mem_cons_self
    refine built_ok_traces ((g.affected_traces _).imp fun _ calls handed => ?_)
    rw [handed]
    exact ByKey.ran ⟨entry.1, here⟩ rfl rfl listed

/-- Updating and deleting by a key run as soon as the record supplies some column of the key, and
the update some other column. Columns of the key that the record does not supply are not compared,
and an update that skips null takes a column that holds null for one of these. -/
theorem byKey_compares_supplied (g : Gateway σ) (d : DeclaredType) (r : d.schema.Record)
    (skipNull : Bool) :
    (g.recording.updateByKey d.toRecordType r skipNull).Traces
      (ByKey d.primaryKey (d.Supplies r skipNull) (d.CanUpdate r skipNull)
        (SetsColumns (g.tableOf d.toRecordType))) ∧
    (g.recording.deleteByKey d.toRecordType r).Traces
      (ByKey d.primaryKey (d.Supplies r false) (d.CanDelete r)
        (· = deleteText (g.tableOf d.toRecordType))) :=
  ⟨updateByKey_traces g d r skipNull, deleteByKey_traces g d r⟩

/-- Seats are numbered within a tenant; a new seat has no number yet. -/
def seat : DeclaredType where
  name := "Seat"
  key := ["tenant", "number"]
  schema :=
    .field { name := "tenant", column := "tenant" } (.required (.int .i64)) <|
    .field { name := "number", column := "number" } (.optional (.int .i64)) <|
    .field { name := "label", column := "label" } (.required .text) .nil

/-- The update of a new seat, on an empty script. -/
def seatUpdate : Except AccessError Nat × Session Script :=
  Gateway.updateByKey { executor := Script.executor, table := "seats" } seat.toRecordType
    seat.schema.default true { world := {} }

/-- The update runs, and would change all seats of the tenant. -/
theorem seatUpdate_whole_tenant :
    "number" ∈ seat.primaryKey ∧ seatUpdate.1 = .ok 1 ∧
      seatUpdate.2.world.log = [.execute
        ⟨"update seats set label = ? where tenant = ?", [.text "", .bigint (IntType.zero .i64)]⟩] :=
  ⟨by decide, rfl, rfl⟩

end Gateway

end SqlRecords
