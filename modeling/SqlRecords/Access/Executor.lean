import SqlRecords.Access.Error
import SqlRecords.Row
import SqlRecords.Statement.Bindings

/-!
# Executors

An executor runs statements and answers with rows, or with what a statement changed. A `Script` is
an executor's state in which the answers are given beforehand and every statement is logged.
-/

namespace SqlRecords

/-- What a statement changed. -/
structure Reply where
  affected : Nat
  /-- The key that the database made for an inserted row. -/
  insertId : Option Nat

/-- Runs statements on a state; a statement that fails may have changed the state too. -/
structure Executor (σ : Type) where
  query : Statement → σ → Except AccessError (List Row) × σ
  execute : Statement → σ → Except AccessError Reply × σ

/-- Every value can stand for one placeholder: a list cannot. -/
def bindable : List Value → Except StatementError Unit
  | [] => .ok ()
  | .list _ :: _ => .error (.invalidArgument .listInPlace)
  | _ :: rest => bindable rest

/-- The executor that refuses lists among the parameters and leaves all else to `inner`. -/
def Executor.refusingLists {σ : Type} (inner : Executor σ) : Executor σ where
  query s world :=
    match bindable s.params with
    | .error e => (.error (.statement e), world)
    | .ok () => inner.query s world
  execute s world :=
    match bindable s.params with
    | .error e => (.error (.statement e), world)
    | .ok () => inner.execute s world

/-- A statement that was handed to an executor. -/
inductive Call where
  | query (s : Statement)
  | execute (s : Statement)

/-- An answer given beforehand. -/
inductive Script.Answer where
  | rows (rows : List Row)
  | fail (reason : String)

/-- The answers that are left, and the statements so far. -/
structure Script where
  answers : List Script.Answer := []
  /-- What every statement changes. -/
  reply : Reply := ⟨1, none⟩
  log : List Call := []

namespace Script

/-- The script with one more call in its log. -/
def record (s : Script) (call : Call) : Script := { s with log := s.log ++ [call] }

/-- The next answer to a query; when none is left there are no rows. -/
def nextRows (s : Script) : Except AccessError (List Row) × Script :=
  match s.answers with
  | [] => (.ok [], s)
  | .rows rows :: rest => (.ok rows, { s with answers := rest })
  | .fail reason :: rest => (.error (.unexpected reason), { s with answers := rest })

/-- The answer to a statement that changes something: a failure if that comes next. -/
def nextReply (s : Script) : Except AccessError Reply × Script :=
  match s.answers with
  | .fail reason :: rest => (.error (.unexpected reason), { s with answers := rest })
  | _ => (.ok s.reply, s)

/-- The executor that follows the script. -/
def executor : Executor Script where
  query stmt s := (s.record (.query stmt)).nextRows
  execute stmt s := (s.record (.execute stmt)).nextReply

end Script

end SqlRecords
