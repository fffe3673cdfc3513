import Registrar.Mail.Message
import Registrar.Warehouse.Basic
/-!
# Draining a queue

A drain has a producer and a consumer. The producer takes the rows of a queue that nobody has seen,
sends a message of each and marks the rows as seen, all in one transaction on one snapshot. The
consumer holds the messages back and hands them to a mailer only once it hears of the commit, so
nothing is delivered that is not marked, and nothing twice.
-/
namespace Registrar.Mail

/-- What becomes of a message that is handed to a mailer. -/
inductive Delivery
  | accepted
  | refused
  /-- The mailer broke down and takes no more messages of this drain. -/
  | died
  deriving DecidableEq, Repr

/-- Delivers messages one at a time (`mail::Mailer`); `μ` is what it remembers of those before. -/
structure Mailer (μ : Type) where
  deliver : Message → μ → Delivery × μ

/-- What a drain did (`pipeline::DrainReport`). -/
structure DrainReport where
  queue : Queue
  /-- Messages made of unseen rows. -/
  produced : Nat
  /-- Rows that were marked. -/
  marked : Nat
  /-- Messages that the mailer accepted. -/
  delivered : Nat
  deriving DecidableEq, Repr

/-- What the producer of messages sends to their consumer (`pipeline::Envelope`). -/
inductive Envelope
  | message (message : Message)
  /-- The transaction is committed, and the messages may go out. -/
  | commit
  deriving DecidableEq, Repr

/-! ## The producer -/

/-- Sends the message of every item, up to the first item that has none (`pipeline::send`). The
state is what has been sent. -/
def sendAll (templates : Templates) (base : String) : List Item → Task (List Envelope) Unit
  | [] => pure ()
  | item :: rest => do
    let message ← Task.lift (item.message templates base)
    Task.change fun sent => .ok (sent ++ [.message message])
    sendAll templates base rest

/-- Selects the rows, sends their messages and marks the rows (`QueueDrain::fill`); the result is
how many messages were sent and how many rows were marked. -/
def fill (templates : Templates) (base : String) (queue : Queue) :
    Task (List Envelope) (Nat × Nat) := do
  let items ← Task.ask (.unseen queue)
  sendAll templates base items
  let marked ← Task.ask (.markSeen queue)
  return (items.length, marked)

/-! ## The consumer -/

variable {ω τ μ : Type}

/-- Hands messages to a mailer; the result is how many it accepted, unless it broke down. -/
def deliverAll (mailer : Mailer μ) (accepted : Nat) : List Message → μ → Option Nat × μ
  | [], m => (some accepted, m)
  | message :: rest, m =>
    match mailer.deliver message m with
    | (.accepted, m) => deliverAll mailer (accepted + 1) rest m
    | (.refused, m) => deliverAll mailer accepted rest m
    | (.died, m) => (none, m)

/-- Takes envelopes until there are no more, and holds the messages back until the commit
(`pipeline::consume`). -/
def consume (mailer : Mailer μ) (held : List Message) : List Envelope → μ → Option Nat × μ
  | [], m => (some 0, m)
  | .message message :: rest, m => consume mailer (held ++ [message]) rest m
  | .commit :: _, m => deliverAll mailer 0 held m

/-! ## Drains -/

/-- The envelopes of a transaction that sent some messages and ended with a result
(`QueueDrain::produce`). -/
def envelopes {α : Type} (result : Except Failure α) (sent : List Envelope) : List Envelope :=
  match result with
  | .ok _ => sent ++ [.commit]
  | .error _ => sent

/-- Drains a queue (`QueueDrain::drain`). -/
def drain (warehouse : Warehouse ω τ) (mailer : Mailer μ) (templates : Templates) (base : String)
    (queue : Queue) (w : ω) (m : μ) : Except Failure DrainReport × ω × μ :=
  let (result, sent, w) := warehouse.transact .snapshot (fill templates base queue) [] w
  match consume mailer [] (envelopes result sent) m with
  | (none, m) => (.error (.delivery queue.name), w, m)
  | (some delivered, m) =>
    match result with
    | .ok (produced, marked) => (.ok ⟨queue, produced, marked, delivered⟩, w, m)
    | .error cause => (.error cause, w, m)

/-- Drains queues one after another (`QueueDrain::drain_all`); the first failure ends it. -/
def drainAll (warehouse : Warehouse ω τ) (mailer : Mailer μ) (templates : Templates)
    (base : String) : List Queue → ω → μ → Except Failure (List DrainReport) × ω × μ
  | [], w, m => (.ok [], w, m)
  | queue :: rest, w, m =>
    match drain warehouse mailer templates base queue w m with
    | (.error cause, w, m) => (.error cause, w, m)
    | (.ok report, w, m) =>
      match drainAll warehouse mailer templates base rest w m with
      | (.ok reports, w, m) => (.ok (report :: reports), w, m)
      | (.error cause, w, m) => (.error cause, w, m)

end Registrar.Mail
