import Registrar.Keyed
import Registrar.Postgres.Statement
import Registrar.Settings.Basic
/-!
# A warehouse on a server

Transactions run over connections from a pool. A connection is opened when no idle one can be used.
It becomes idle again when its transaction has ended well or could not begin; where the end of a
transaction fails, the connection is not used again, and the server forgets the transaction with
it.
-/
namespace Registrar.Postgres

open Registrar.Warehouse

/-- A pool of connections to a server with states of type `σ`. -/
structure Pool (σ : Type) where
  server : σ
  /-- Connections that no transaction uses, the one that has been idle longest first. -/
  idle : List Nat := []
  /-- How many connections were opened so far. -/
  opened : Nat := 0

/-- A transaction: its connection (`postgres::PgTx`). -/
structure Transaction where
  connection : Nat
  deriving DecidableEq, Repr

namespace Pool

variable {σ : Type}

/-- A connection that is idle, or a new one. -/
def take (server : Server σ) (pool : Pool σ) : Except String Nat × Pool σ :=
  match server.reuse pool.idle pool.server with
  | some connection => (.ok connection, { pool with idle := pool.idle.erase connection })
  | none =>
    match server.connect pool.opened pool.server with
    | (.ok (), s) => (.ok pool.opened, { pool with server := s, opened := pool.opened + 1 })
    | (.error cause, s) =>
      (.error s!"Error occurred while creating a new object: {cause}", { pool with server := s })

/-- A connection is idle again. -/
def giveBack (connection : Nat) (pool : Pool σ) : Pool σ :=
  { pool with idle := pool.idle ++ [connection] }

/-- Sends a statement, which cannot hold a NUL. -/
def send (server : Server σ) (connection : Nat) (statement : Statement) (pool : Pool σ) :
    Reply × Pool σ :=
  if statement.sql.toList.contains '\x00' then
    (.failed (.connection "error encoding message to server"), pool)
  else
    let (reply, s) := server.send connection statement pool.server
    (reply, { pool with server := s })

end Pool

/-! ## Reading rows -/

/-- The cell of a column has no value of its kind. -/
def badCell (column : Nat) : Failure :=
  .server (.connection s!"error deserializing column {column}")

def wholeAt (row : List Cell) (column : Nat) : Except Failure Int :=
  match row[column]? with
  | some (.whole n) => .ok n
  | _ => .error (badCell column)

def textAt (row : List Cell) (column : Nat) : Except Failure String :=
  match row[column]? with
  | some (.text s) => .ok s
  | _ => .error (badCell column)

def textsAt (row : List Cell) (column : Nat) : Except Failure (List String) :=
  match row[column]? with
  | some (.texts items) =>
    match items.mapM id with
    | some texts => .ok texts
    | none => .error (badCell column)
  | _ => .error (badCell column)

def dateAt? (row : List Cell) (column : Nat) : Except Failure (Option Time.Date) :=
  match row[column]? with
  | some (.date d) => .ok (some d)
  | some .null => .ok none
  | _ => .error (badCell column)

/-- The id in the first column of an inserted row. -/
def idOf (table : String) (row : List Cell) : Except Failure Int :=
  match row.head? with
  | some (.text raw) =>
    match Number.readInt64 raw.toList with
    | .ok n => .ok n
    | .error fault => .error (.warehouse s!"{table}: bad id '{raw}': {fault.message}")
  | some (.whole n) => .ok n
  | _ => .error (.warehouse s!"{table}: RETURNING id produced NULL")

/-- The ids of inserted rows, of which there must be `count` (`PgTx::insert_returning_ids`). -/
def idsOf (table : String) (count : Nat) (rows : List (List Cell)) :
    Except Failure (List Int) := do
  let ids ← rows.mapM (idOf table)
  if ids.length = count then return ids
  else .error (.warehouse s!"{table}: inserted {count} rows but got {ids.length} ids")

/-- The dates of a term. -/
def termOf (row : List Cell) : Except Failure (Int × Timeframe) := do
  let term ← wholeAt row 0
  return (term, ⟨← dateAt? row 1, ← dateAt? row 2⟩)

/-- The dates of all terms (`PgTx::term_dates`); of two rows for one term the later counts. -/
def termsOf (rows : List (List Cell)) : Except Failure (List (Int × Timeframe)) := do
  return (← rows.mapM termOf).foldl (fun terms (term, frame) => Keyed.put term frame terms) []

/-- The row of a queue (`postgres::queue_item`). -/
def itemOf (queue : Mail.Queue) (row : List Cell) : Except Failure Mail.Item := do
  match queue with
  | .passwordReset =>
    return .reset ⟨← wholeAt row 0, ← textAt row 1, ← textAt row 2, ← textAt row 3⟩
  | .sectionSubscribed =>
    return .subscribed
      ⟨← wholeAt row 0, ← wholeAt row 1, ← textAt row 2, ← textAt row 3, ← textAt row 4⟩
  | .sectionVacated =>
    return .vacated
      ⟨← wholeAt row 0, ← textAt row 1, ← textAt row 2, ← textAt row 3, ← textsAt row 4⟩

/-! ## Requests -/

/-- The rows of a reply; other replies have none. -/
def Reply.rows? : Reply → Except Failure (List (List Cell))
  | .rows returned => .ok returned
  | .failed fault => .error (.server fault)
  | _ => .ok []

/-- The count of a reply. -/
def Reply.count? : Reply → Except Failure Nat
  | .count n => .ok n
  | .failed fault => .error (.server fault)
  | _ => .ok 0

/-- That the server did what it was told. -/
def Reply.done? : Reply → Except Failure Unit
  | .failed fault => .error (.server fault)
  | _ => .ok ()

variable {σ : Type}

/-- Makes a statement, sends it over the connection of a transaction and reads the reply. -/
def exchange {α : Type} (server : Server σ) (statement : Except Failure Statement)
    (read : Reply → Except Failure α) (tx : Transaction) (pool : Pool σ) :
    Except Failure α × Transaction × Pool σ :=
  match statement with
  | .error cause => (.error cause, tx, pool)
  | .ok statement =>
    let (reply, pool) := pool.send server tx.connection statement
    (read reply, tx, pool)

/-- Answers a request (`WarehouseTx` of `PgTx`). No rows need no statement. -/
def answer (server : Server σ) (schema : String) :
    (request : Request) → Transaction → Pool σ →
      Except Failure request.Reply × Transaction × Pool σ
  | .insert rows, tx, pool =>
    if rows.rows = [] then (.ok [], tx, pool)
    else exchange server (do return .insert (← insertStatement schema rows))
      (fun reply => do idsOf rows.table rows.rows.length (← reply.rows?)) tx pool
  | .copy rows, tx, pool =>
    if rows.rows = [] then (.ok 0, tx, pool)
    else
      let sends := (Sql.bulkSends rows.rows).map String.ofList
      exchange server (do return .bulk (← bulkStatement schema rows) sends) Reply.count? tx pool
  | .termDates, tx, pool =>
    exchange server (do return .select (← termStatement schema))
      (fun reply => do termsOf (← reply.rows?)) tx pool
  | .unseen queue, tx, pool =>
    exchange server (do return .select (← queueStatement schema queue))
      (fun reply => do (← reply.rows?).mapM (itemOf queue)) tx pool
  | .markSeen queue, tx, pool =>
    exchange server (do return .update (← markStatement queue)) Reply.count? tx pool

/-! ## Transactions -/

/-- Begins a transaction over a connection from the pool (`PgWarehouse::begin`). -/
def begin (server : Server σ) (mode : Mode) (pool : Pool σ) :
    Except Failure Transaction × Pool σ :=
  match pool.take server with
  | (.error cause, pool) => (.error (.pool cause "opening transaction"), pool)
  | (.ok connection, pool) =>
    let (reply, pool) := pool.send server connection (.control (beginText mode))
    match reply.done? with
    | .ok () => (.ok ⟨connection⟩, pool)
    | .error cause => (.error cause, pool.giveBack connection)

/-- Ends a transaction (`PgTx::finish`). The connection goes back to the pool only if that
succeeds. -/
def finish (server : Server σ) (sql : String) (tx : Transaction) (pool : Pool σ) :
    Except Failure Unit × Pool σ :=
  let (reply, pool) := pool.send server tx.connection (.control sql)
  match reply.done? with
  | .ok () => (.ok (), pool.giveBack tx.connection)
  | .error cause => (.error cause, pool)

/-- The warehouse on a server, whose tables stand in a schema unless they name another one
(`postgres::PgWarehouse`). -/
def warehouse (server : Server σ) (schema : String) : Warehouse (Pool σ) Transaction where
  begin := begin server
  answer := answer server schema
  commit := finish server commitText
  rollback := finish server rollbackText

/-! ## Tests -/

/-- What a test of the connection shows (`target::HealthCheckResult`). -/
structure Health where
  connected : Bool
  error : Option String
  deriving DecidableEq, Repr

/-- A warehouse is healthy if it can be reached. -/
def Health.healthy (health : Health) : Bool := health.connected

/-- Tests the connection (`PgWarehouse::health_check`). -/
def health (server : Server σ) (pool : Pool σ) : Health × Pool σ :=
  match pool.take server with
  | (.error cause, pool) => (⟨false, some cause⟩, pool)
  | (.ok connection, pool) =>
    let (reply, pool) := pool.send server connection (.control testText)
    let pool := pool.giveBack connection
    match reply with
    | .failed fault => (⟨false, some (Failure.serverText fault)⟩, pool)
    | _ => (⟨true, none⟩, pool)

/-- A new pool, once a connection could be made and tested (`PgWarehouse::new`). -/
def connect (server : Server σ) (s : σ) : Except Failure (Pool σ) × σ :=
  match Pool.take server { server := s } with
  | (.error cause, pool) => (.error (.pool cause "testing warehouse connection"), pool.server)
  | (.ok connection, pool) =>
    let (reply, pool) := pool.send server connection (.control testText)
    match reply.done? with
    | .ok () => (.ok (pool.giveBack connection), pool.server)
    | .error cause => (.error cause, pool.server)

end Registrar.Postgres
