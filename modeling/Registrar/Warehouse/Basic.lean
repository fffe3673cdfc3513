import Registrar.Mail.Queue
import Registrar.Sql.Rows
import Registrar.Time.Date
/-!
# Warehouses

A warehouse hands out transactions. What a transaction is asked is data (`Request`), and so is a
conversation with one (`Program`): it ends with a value or a failure, or asks and goes on with the
answer. A request that fails ends the conversation. A program carries a state of its own and
says, with every request, what that state is by then, so the state survives a failure.

`Warehouse.transact` is the only way in which imports and drains use a transaction: it is
committed if its program succeeds and rolled back if not, and the first failure is the result.
-/
namespace Registrar

namespace Warehouse

/-- How much a transaction sees of others: whatever they commit, or one snapshot
(`target::TxMode`). -/
inductive Mode
  | readWrite
  | snapshot
  deriving DecidableEq, Repr

/-- The first and last day of a term, as far as they are known (`target::Timeframe`). -/
structure Timeframe where
  first : Option Time.Date := none
  last : Option Time.Date := none
  deriving DecidableEq, Repr

/-- What a transaction can be asked (`target::WarehouseTx`). -/
inductive Request
  /-- Insert rows and tell the id of each. -/
  | insert (rows : Sql.Rows)
  /-- Write rows in bulk and tell how many. -/
  | copy (rows : Sql.Rows)
  /-- The dates of every term. -/
  | termDates
  /-- The rows of a queue that nobody has seen. -/
  | unseen (queue : Mail.Queue)
  /-- Mark every row of a queue as seen and tell how many were not. -/
  | markSeen (queue : Mail.Queue)
  deriving DecidableEq, Repr

/-- What the answer to a request is. -/
@[reducible] def Request.Reply : Request → Type
  | insert _ => List Int
  | copy _ => Nat
  | termDates => List (Int × Timeframe)
  | unseen _ => List Mail.Item
  | markSeen _ => Nat

end Warehouse

open Warehouse (Request Mode)

/-- A conversation with a transaction, with a state of type `σ`, about a value of type `α`. -/
inductive Program (σ α : Type) : Type
  | done (value : α) (state : σ)
  | fail (cause : Failure) (state : σ)
  | ask (request : Request) (state : σ) (next : request.Reply → Program σ α)

namespace Program

variable {σ α β : Type}

/-- A program and what follows it if it succeeds. -/
def bind (f : α → σ → Program σ β) : Program σ α → Program σ β
  | done value state => f value state
  | fail cause state => fail cause state
  | ask request state next => ask request state fun reply => bind f (next reply)

end Program

/-- A program that starts in a state. -/
def Task (σ α : Type) : Type := σ → Program σ α

namespace Task

variable {σ α β : Type}

instance : Monad (Task σ) where
  pure value := fun state => .done value state
  bind task f := fun state => (task state).bind f

/-- Asks the transaction. -/
def ask (request : Request) : Task σ request.Reply := fun state =>
  .ask request state fun reply => .done reply state

/-- Ends the conversation. -/
def fail (cause : Failure) : Task σ α := fun state => .fail cause state

/-- A result that needs no transaction. -/
def lift : Except Failure α → Task σ α
  | .ok value => pure value
  | .error cause => fail cause

def get : Task σ σ := fun state => .done state state

def set (state : σ) : Task σ Unit := fun _ => .done () state

/-- Changes the state, or fails and keeps it. -/
def change (f : σ → Except Failure σ) : Task σ Unit := fun state =>
  match f state with
  | .ok state => .done () state
  | .error cause => .fail cause state

end Task

/-- A warehouse with states of type `ω` and transactions of type `τ` (`target::Warehouse`). -/
structure Warehouse (ω τ : Type) where
  begin : Mode → ω → Except Failure τ × ω
  answer : (request : Request) → τ → ω → Except Failure request.Reply × τ × ω
  commit : τ → ω → Except Failure Unit × ω
  rollback : τ → ω → Except Failure Unit × ω

namespace Warehouse

variable {ω τ σ α : Type}

/-- What is left of a conversation: its result, the state of its program, the transaction and the
warehouse. -/
structure Outcome (ω τ σ α : Type) where
  result : Except Failure α
  state : σ
  transaction : τ
  warehouse : ω

/-- Holds a conversation. -/
def converse (warehouse : Warehouse ω τ) : Program σ α → τ → ω → Outcome ω τ σ α
  | .done value state, tx, w => ⟨.ok value, state, tx, w⟩
  | .fail cause state, tx, w => ⟨.error cause, state, tx, w⟩
  | .ask request state next, tx, w =>
    match warehouse.answer request tx w with
    | (.ok reply, tx, w) => converse warehouse (next reply) tx w
    | (.error cause, tx, w) => ⟨.error cause, state, tx, w⟩

/-- Does a task in a transaction of its own. -/
def transact (warehouse : Warehouse ω τ) (mode : Mode) (task : Task σ α) (state : σ) (w : ω) :
    Except Failure α × σ × ω :=
  match warehouse.begin mode w with
  | (.error cause, w) => (.error cause, state, w)
  | (.ok tx, w) =>
    let outcome := warehouse.converse (task state) tx w
    match outcome.result with
    | .ok value =>
      match warehouse.commit outcome.transaction outcome.warehouse with
      | (.ok (), w) => (.ok value, outcome.state, w)
      | (.error cause, w) => (.error cause, outcome.state, w)
    | .error cause =>
      (.error cause, outcome.state,
        (warehouse.rollback outcome.transaction outcome.warehouse).2)

end Warehouse

end Registrar
