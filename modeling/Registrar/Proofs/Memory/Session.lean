import Registrar.Proofs.Memory.Commit
/-!
# Sessions

A session is a transaction together with the state at its begin and everything it was asked and
answered since. `replay` asks the same of a transaction that nobody else disturbs; a session that
is `Replayed` could not tell the difference, so its answers depend on its own beginning and its own
requests only.
-/
namespace Registrar.Memory

open Warehouse (Request)

/-- A request, when it was made, and its answer. -/
structure Exchange where
  now : Time.Instant
  request : Request
  reply : Except Failure request.Reply

/-- What was asked, and when. -/
def Exchange.asked (exchange : Exchange) : Time.Instant × Request :=
  (exchange.now, exchange.request)

/-- What an exchange added to a table. -/
def Exchange.added (name : String) (exchange : Exchange) : List Entry :=
  Memory.added name exchange.request exchange.reply

/-- The answers to some requests in order, and the transaction after them. -/
def replay (tx : Transaction) : List (Time.Instant × Request) → List Exchange × Transaction
  | [] => ([], tx)
  | (now, request) :: rest =>
    let (reply, tx) := answer now request tx
    let (exchanges, tx) := replay tx rest
    (⟨now, request, reply⟩ :: exchanges, tx)

theorem replay_append (tx : Transaction) (before after : List (Time.Instant × Request)) :
    replay tx (before ++ after) =
      ((replay tx before).1 ++ (replay (replay tx before).2 after).1,
        (replay (replay tx before).2 after).2) := by
  induction before generalizing tx with
  | nil => rfl
  | cons ask rest ih => simp only [List.cons_append, replay, ih]

theorem asked_replay (tx : Transaction) (asks : List (Time.Instant × Request)) :
    (replay tx asks).1.map Exchange.asked = asks := by
  induction asks generalizing tx with
  | nil => rfl
  | cons ask rest ih => simp only [replay, List.map_cons, ih]; rfl

/-- A transaction extends each table by what its exchanges added. -/
theorem table_replay (tx : Transaction) (asks : List (Time.Instant × Request)) (name : String) :
    (replay tx asks).2.work.table name =
      (tx.work.table name).extend ((replay tx asks).1.flatMap (Exchange.added name)) := by
  induction asks generalizing tx with
  | nil => simp [replay]
  | cons ask rest ih =>
    simp only [replay, ih, List.flatMap_cons, answer_table, Table.extend_extend]
    rfl

theorem Follows.replay {base : State} {tx : Transaction} (h : Follows base tx)
    (asks : List (Time.Instant × Request)) : Follows base (replay tx asks).2 := by
  induction asks generalizing tx with
  | nil => exact h
  | cons ask rest ih => exact ih (h.answer ask.1 ask.2)

/-- A transaction in a history: the state at its begin and what it was asked since. -/
structure Session where
  base : State
  tx : Transaction
  exchanges : List Exchange
  isOpen : Bool

namespace Session

/-- A transaction that begins. -/
def start (state : State) : Session := ⟨state, begin state, [], true⟩

/-- The session after a request. -/
def ask (session : Session) (now : Time.Instant) (request : Request) : Session :=
  let (reply, tx) := answer now request session.tx
  { session with tx, exchanges := session.exchanges ++ [⟨now, request, reply⟩] }

/-- The session after its end. -/
def close (session : Session) : Session := { session with isOpen := false }

/-- What the session added to a table. -/
def entries (name : String) (session : Session) : List Entry :=
  session.exchanges.flatMap (Exchange.added name)

@[simp] theorem base_close (session : Session) : session.close.base = session.base := rfl

/-- The session was answered as if it were alone. -/
def Replayed (session : Session) : Prop :=
  replay (begin session.base) (session.exchanges.map Exchange.asked) =
    (session.exchanges, session.tx)

theorem replayed_start (state : State) : (start state).Replayed := rfl

theorem Replayed.close {session : Session} (h : session.Replayed) : session.close.Replayed := h

theorem Replayed.ask {session : Session} (h : session.Replayed) (now : Time.Instant)
    (request : Request) : (session.ask now request).Replayed := by
  unfold Replayed at h ⊢
  simp only [Session.ask, List.map_append, List.map_cons, List.map_nil, replay_append, h]
  rfl

namespace Replayed

variable {session : Session}

theorem follows (h : session.Replayed) : Follows session.base session.tx := by
  have := (follows_begin session.base).replay (session.exchanges.map Exchange.asked)
  rwa [h] at this

/-- The session sees each table as it was at its begin, with its own entries behind. -/
theorem table (h : session.Replayed) (name : String) :
    session.tx.work.table name = (session.base.table name).extend (session.entries name) := by
  have := table_replay (begin session.base) (session.exchanges.map Exchange.asked) name
  rw [h] at this
  exact this

/-- A table that the session does not remember got nothing from it. -/
theorem entries_eq_nil (h : session.Replayed) {name : String}
    (hname : name ∉ session.tx.written.map Prod.fst) : session.entries name = [] := by
  have hsame := h.table name
  rw [h.follows.unwritten name hname] at hsame
  have hlast := congrArg Table.lastId hsame
  simp only [Table.extend] at hlast
  exact List.length_eq_zero_iff.1 (by omega)

/-- An answer in the middle of a session is that of the transaction as it was by then. -/
theorem reply_eq (h : session.Replayed) {before after : List Exchange} {exchange : Exchange}
    (hmid : session.exchanges = before ++ exchange :: after) :
    exchange.reply = (answer exchange.now exchange.request
      (replay (begin session.base) (before.map Exchange.asked)).2).1 ∧
    (replay (begin session.base) (before.map Exchange.asked)).1 = before := by
  unfold Replayed at h
  rw [hmid, List.map_append, replay_append] at h
  have hlists := congrArg Prod.fst h
  have hlen : (replay (begin session.base) (before.map Exchange.asked)).1.length = before.length := by
    have := congrArg List.length (asked_replay (begin session.base) (before.map Exchange.asked))
    simpa using this
  obtain ⟨hbefore, hrest⟩ := List.append_inj hlists hlen
  refine ⟨?_, hbefore⟩
  obtain ⟨now, request, reply⟩ := exchange
  simp only [List.map_cons, Exchange.asked, replay, List.cons.injEq, Exchange.mk.injEq, true_and,
    heq_eq_eq] at hrest
  exact hrest.1.symm

/-- The ids that an insertion is told follow the last id at the begin of the session and the rows
that the session added before. -/
theorem ids_eq (h : session.Replayed) {before after : List Exchange} {now : Time.Instant}
    {rows : Sql.Rows} {ids : List Int}
    (hmid : session.exchanges = before ++ ⟨now, .insert rows, .ok ids⟩ :: after) :
    ids = idsAfter ((session.base.table rows.table).lastId
      + (before.flatMap (Exchange.added rows.table)).length) rows.rows.length := by
  obtain ⟨hreply, hbefore⟩ := h.reply_eq hmid
  have htable := table_replay (begin session.base) (before.map Exchange.asked) rows.table
  rw [hbefore] at htable
  simp only [answer_insert] at hreply
  split at hreply
  · cases hreply
  · injection hreply with hids
    rw [hids, htable]
    rfl

end Replayed

end Session

end Registrar.Memory
