import Registrar.Keyed
import Registrar.Text.LetterCase
import Registrar.Warehouse.Basic
/-!
# A warehouse in memory

The warehouse of a rehearsal. A transaction works on a copy of the state that it took when it
began, and publishes on commit what it wrote: whole tables, and the marks on rows of queues. A
commit fails, and changes nothing, if another transaction has meanwhile written one of the tables
or marked one of the rows. Rows that others added to a queue stay, unmarked.
-/
namespace Registrar.Memory

open Warehouse (Mode Request Timeframe)

/-- A row of a table: the value of every column, and the id. -/
abbrev Row := List (String × Sql.Value)

/-- A table: the id of its last row, and its rows (`memory::Table`). -/
structure Table where
  lastId : Nat := 0
  rows : List Row := []
  deriving DecidableEq, Repr, Inhabited

/-- A row of a queue, and when it was seen, if it has been (`memory::MemoryQueueRow`). -/
structure QueueRow where
  item : Mail.Item
  seenAt : Option Time.Instant
  deriving DecidableEq, Repr

namespace QueueRow

/-- Whether the row has been seen. -/
def seen (row : QueueRow) : Bool := row.seenAt.isSome

/-- The row as it is once it has been seen; a row that has been seen stays as it is. -/
def mark (now : Time.Instant) (row : QueueRow) : QueueRow :=
  if row.seen then row else { row with seenAt := some now }

end QueueRow

/-- What a warehouse holds (`memory::State`). -/
structure State where
  tables : List (String × Table) := []
  termDates : List (Int × Timeframe) := []
  queues : Mail.Queue → List QueueRow := fun _ => []
  /-- Tables that refuse to be written. -/
  failing : List String := []

namespace State

/-- A table; one that was never written is empty. -/
def table (state : State) (name : String) : Table := (state.tables.lookup name).getD {}

def setTable (state : State) (name : String) (table : Table) : State :=
  { state with tables := Keyed.put name table state.tables }

def setQueue (state : State) (queue : Mail.Queue) (rows : List QueueRow) : State :=
  { state with queues := fun other => if other = queue then rows else state.queues other }

theorem table_setTable (state : State) (name other : String) (table : Table) :
    (state.setTable name table).table other = if other = name then table else state.table other := by
  simp only [State.table, setTable, Keyed.lookup_put]
  split <;> simp

theorem queues_setQueue (state : State) (queue other : Mail.Queue) (rows : List QueueRow) :
    (state.setQueue queue rows).queues other = if other = queue then rows else state.queues other :=
  rfl

/-- Adds a row to a queue, as a transaction of its own (`MemoryWarehouse::enqueue`). -/
def enqueue (state : State) (queue : Mail.Queue) (row : QueueRow) : State :=
  state.setQueue queue (state.queues queue ++ [row])

/-- How many rows of a queue nobody has seen (`MemoryWarehouse::unseen_count`). -/
def unseenCount (state : State) (queue : Mail.Queue) : Nat :=
  ((state.queues queue).filter fun row => !row.seen).length

end State

/-- A transaction that has not ended (`memory::MemoryTx`). -/
structure Transaction where
  /-- The state as the transaction sees it. -/
  work : State
  /-- The tables that it wrote, with their last id when it began. -/
  written : List (String × Nat) := []
  /-- The positions of the rows that it marked. -/
  marked : Mail.Queue → List Nat := fun _ => []

/-- A new transaction (`MemoryWarehouse::begin`). -/
def begin (state : State) : Transaction := { work := state }

/-! ## Rows of tables -/

/-- The row of some values; the id is `id` unless a column of that name says otherwise. -/
def row (columns : List String) (values : List Sql.Value) (id : Nat) : Row :=
  Keyed.putNew "id" (.bigint id)
    ((columns.zip values).foldl (fun row (column, value) => Keyed.put column value row) [])

/-- Adds rows to a table; their ids follow the last one. -/
def Table.append (table : Table) (columns : List String) (rows : List (List Sql.Value)) :
    Table where
  lastId := table.lastId + rows.length
  rows := table.rows ++ rows.mapIdx fun i values => row columns values (table.lastId + i + 1)

/-- Adds rows (`MemoryTx::append`); the result is the id of each. -/
def append (rows : Sql.Rows) (tx : Transaction) : Except Failure (List Int) × Transaction :=
  if rows.table ∈ tx.work.failing then
    (.error (.warehouse s!"write to {rows.table} rejected"), tx)
  else
    let table := tx.work.table rows.table
    let ids := (List.range rows.rows.length).map fun i => ((table.lastId + i + 1 : Nat) : Int)
    (.ok ids,
      { tx with
        work := tx.work.setTable rows.table (table.append rows.columns rows.rows)
        written := Keyed.putNew rows.table table.lastId tx.written })

/-! ## Rows of queues -/

/-- The course and the user of a subscription (`MemoryQueueRow::course_key`). -/
def courseKey? (row : QueueRow) : Option (String × Int) :=
  match row.item with
  | .subscribed item => some (Text.lower item.courseCode, item.userId)
  | _ => none

/-- Whether a seen row has told the same user of the same course. -/
def notified (rows : List QueueRow) (row : QueueRow) : Bool :=
  match courseKey? row with
  | none => false
  | some key => rows.any fun other => other.seen && courseKey? other == some key

/-- The items that nobody has seen, subscriptions that a seen row has answered aside. -/
def selected (rows : List QueueRow) : List Mail.Item :=
  (rows.filter fun row => !row.seen && !notified rows row).map QueueRow.item

/-- The rows that are to be told (`MemoryTx::unseen`); all of them need an address. -/
def unseen (queue : Mail.Queue) (tx : Transaction) : Except Failure (List Mail.Item) :=
  let items := selected (tx.work.queues queue)
  if items.any fun item => item.recipient == "" then
    .error (.warehouse s!"{queue.name}: unseen row has a NULL recipient email")
  else .ok items

/-- The positions of the rows that nobody has seen, the first of which is `from_`. -/
def unseenPositions (from_ : Nat) : List QueueRow → List Nat
  | [] => []
  | row :: rest =>
    if row.seen then unseenPositions (from_ + 1) rest else from_ :: unseenPositions (from_ + 1) rest

/-- Marks every row of a queue (`MemoryTx::mark_seen`); the result is how many were not marked
before. -/
def markSeen (now : Time.Instant) (queue : Mail.Queue) (tx : Transaction) : Nat × Transaction :=
  let rows := tx.work.queues queue
  let positions := unseenPositions 0 rows
  (positions.length,
    { tx with
      work := tx.work.setQueue queue (rows.map (QueueRow.mark now))
      marked := fun other =>
        if other = queue then tx.marked queue ++ positions else tx.marked other })

/-- Answers a request (`WarehouseTx` of `MemoryTx`); `now` is what the clock shows. -/
def answer (now : Time.Instant) :
    (request : Request) → Transaction → Except Failure request.Reply × Transaction
  | .insert rows, tx => append rows tx
  | .copy rows, tx =>
    match append rows tx with
    | (.ok ids, tx) => (.ok ids.length, tx)
    | (.error cause, tx) => (.error cause, tx)
  | .termDates, tx => (.ok tx.work.termDates, tx)
  | .unseen queue, tx => (unseen queue tx, tx)
  | .markSeen queue, tx =>
    let (count, tx) := markSeen now queue tx
    (.ok count, tx)

/-! ## The end of a transaction -/

/-- A table that the transaction wrote and another one wrote since. -/
def overwritten? (tx : Transaction) (state : State) : Option String :=
  (tx.written.find? fun (name, lastId) => (state.table name).lastId != lastId).map Prod.fst

/-- Whether the row at a position is there and nobody has seen it. -/
def isUnseenAt (rows : List QueueRow) (position : Nat) : Bool :=
  match rows[position]? with
  | some row => !row.seen
  | none => false

/-- A queue of which the transaction marked a row that another one marked since. -/
def remarked? (tx : Transaction) (state : State) : Option Mail.Queue :=
  Mail.Queue.all.find? fun queue =>
    (tx.marked queue).any fun position => !isUnseenAt (state.queues queue) position

/-- The rows with those at some positions marked as they are in `mine`. -/
def markAt (positions : List Nat) (mine rows : List QueueRow) : List QueueRow :=
  rows.mapIdx fun i row =>
    match mine[i]? with
    | some other => if i ∈ positions then { row with seenAt := other.seenAt } else row
    | none => row

/-- The state with what the transaction wrote. -/
def publish (tx : Transaction) (state : State) : State :=
  { state with
    tables := tx.written.foldl
      (fun tables (name, _) => Keyed.put name (tx.work.table name) tables) state.tables
    queues := fun queue =>
      markAt (tx.marked queue) (tx.work.queues queue) (state.queues queue) }

/-- Ends a transaction and publishes what it wrote, unless another one is in the way
(`MemoryTx::commit`). -/
def commit (tx : Transaction) (state : State) : Except Failure Unit × State :=
  match overwritten? tx state with
  | some name =>
    (.error (.warehouse
      s!"could not serialize access: {name} was written by a concurrent transaction"), state)
  | none =>
    match remarked? tx state with
    | some queue =>
      (.error (.warehouse (s!"could not serialize access: {queue.name} rows were marked by a "
        ++ "concurrent transaction")), state)
    | none => (.ok (), publish tx state)

/-- Ends a transaction and forgets what it wrote (`MemoryTx::rollback`). -/
def rollback (_ : Transaction) (state : State) : Except Failure Unit × State := (.ok (), state)

/-- The warehouse at a time (`memory::MemoryWarehouse`). -/
def warehouse (now : Time.Instant) : Warehouse State Transaction where
  begin _ state := (.ok (begin state), state)
  answer request tx state :=
    let (reply, tx) := answer now request tx
    (reply, tx, state)
  commit := commit
  rollback := rollback

end Registrar.Memory
