import Registrar.Proofs.Mail.Envelopes
/-!
# Producer and consumer over a bounded channel

The producer and the consumer of a drain are two parties with a channel between them, and either of
them may take its next step whenever it can (`Plan.step`). The producer has to wait while the channel
is full, the consumer while it is empty and not yet closed; everything else they can do at once. A
schedule says whose turn it is, and `Plan.run` follows one.

What the parties do is what `drain` does one after the other: the producer makes the requests of
`fill`, and the consumer those of `consume`.
-/
namespace Registrar.Mail

/-! ## Parties -/

/-- Where the producer stands. -/
inductive Producer (τ : Type)
  | beginning
  /-- Its transaction is begun, and the rows are to be selected. -/
  | selecting (tx : τ)
  /-- Of the `count` items selected some have no message yet. -/
  | rendering (tx : τ) (count : Nat) (rest : List Item)
  /-- The message of an item is to be sent. -/
  | sending (tx : τ) (count : Nat) (message : Message) (rest : List Item)
  | committing (tx : τ) (counts : Nat × Nat)
  /-- The transaction is committed, and the word of it is to be sent. -/
  | confirming (counts : Nat × Nat)
  /-- Something failed, and the transaction is to be rolled back. -/
  | aborting (tx : τ) (cause : Failure)
  /-- The channel is to be closed. -/
  | closing (result : Except Failure (Nat × Nat))
  | closed (result : Except Failure (Nat × Nat))

/-- Where the consumer stands. -/
inductive Consumer
  /-- It takes envelopes and holds messages back. -/
  | receiving (held : List Message)
  /-- It has heard of the commit; the mailer has accepted some messages, and the others follow. -/
  | delivering (accepted : Nat) (rest : List Message)
  /-- It is done, or its mailer broke down. -/
  | ended (delivered : Option Nat)

inductive Party
  | producer
  | consumer
  deriving DecidableEq, Repr

/-- A drain in the middle of things. -/
structure System (ω τ μ : Type) where
  producer : Producer τ
  /-- What the channel holds; the envelope that was sent first comes first. -/
  channel : List Envelope
  consumer : Consumer
  warehouse : ω
  mailer : μ
  /-- Whether the warehouse has granted the commit. -/
  committed : Bool
  /-- What the mailer was handed, in order. -/
  handed : List Handed

/-- What a drain works with. -/
structure Plan (ω τ μ : Type) where
  warehouse : Warehouse ω τ
  mailer : Mailer μ
  templates : Templates
  base : String
  queue : Queue

/-- The failure of sending to a consumer that takes no more. -/
def stopped : Failure := .channel "message consumer stopped"

/-! ## Steps -/

/-- What a producer is about to do. -/
inductive Intent (ω τ : Type)
  /-- Anything but sending. -/
  | act (next : Producer τ) (w : ω)
  /-- A commit that is granted. -/
  | commit (next : Producer τ) (w : ω)
  /-- Sending an envelope, and where the producer goes on if nobody takes it. -/
  | send (envelope : Envelope) (next failed : Producer τ)
  | stop

variable {ω τ μ : Type}

namespace Plan

variable (plan : Plan ω τ μ)

/-- What the producer is about to do. -/
def next : Producer τ → ω → Intent ω τ
  | .beginning, w =>
    match plan.warehouse.begin .snapshot w with
    | (.ok tx, w) => .act (.selecting tx) w
    | (.error cause, w) => .act (.closing (.error cause)) w
  | .selecting tx, w =>
    match plan.warehouse.answer (.unseen plan.queue) tx w with
    | (.ok items, tx, w) => .act (.rendering tx items.length items) w
    | (.error cause, tx, w) => .act (.aborting tx cause) w
  | .rendering tx count (item :: rest), w =>
    match item.message plan.templates plan.base with
    | .ok message => .act (.sending tx count message rest) w
    | .error cause => .act (.aborting tx cause) w
  | .rendering tx count [], w =>
    match plan.warehouse.answer (.markSeen plan.queue) tx w with
    | (.ok marked, tx, w) => .act (.committing tx (count, marked)) w
    | (.error cause, tx, w) => .act (.aborting tx cause) w
  | .sending tx count message rest, _ =>
    .send (.message message) (.rendering tx count rest) (.aborting tx stopped)
  | .committing tx counts, w =>
    match plan.warehouse.commit tx w with
    | (.ok (), w) => .commit (.confirming counts) w
    | (.error cause, w) => .act (.closing (.error cause)) w
  | .confirming counts, _ => .send .commit (.closing (.ok counts)) (.closing (.error stopped))
  | .aborting tx cause, w => .act (.closing (.error cause)) (plan.warehouse.rollback tx w).2
  | .closing result, w => .act (.closed result) w
  | .closed _, _ => .stop

/-- The next step of the producer, if it need not wait; a channel holds one envelope at least. -/
def stepProducer (capacity : Nat) (s : System ω τ μ) : Option (System ω τ μ) :=
  match plan.next s.producer s.warehouse with
  | .act producer warehouse => some { s with producer, warehouse }
  | .commit producer warehouse => some { s with producer, warehouse, committed := true }
  | .send envelope producer failed =>
    match s.consumer with
    | .ended _ => some { s with producer := failed }
    | _ =>
      if s.channel.length < max 1 capacity then
        some { s with producer, channel := s.channel ++ [envelope] }
      else none
  | .stop => none

/-- The next step of the consumer, if it need not wait. -/
def stepConsumer (s : System ω τ μ) : Option (System ω τ μ) :=
  match s.consumer, s.channel with
  | .receiving held, .message message :: channel =>
    some { s with channel, consumer := .receiving (held ++ [message]) }
  | .receiving held, .commit :: channel =>
    some { s with channel, consumer := .delivering 0 held }
  | .receiving _, [] =>
    match s.producer with
    | .closed _ => some { s with consumer := .ended (some 0) }
    | _ => none
  | .delivering accepted [], _ => some { s with consumer := .ended (some accepted) }
  | .delivering accepted (message :: rest), _ =>
    let (delivery, mailer) := plan.mailer.deliver message s.mailer
    let handed := s.handed ++ [(message, delivery)]
    match delivery with
    | .accepted => some { s with mailer, handed, consumer := .delivering (accepted + 1) rest }
    | .refused => some { s with mailer, handed, consumer := .delivering accepted rest }
    | .died => some { s with mailer, handed, consumer := .ended none }
  | .ended _, _ => none

/-- The next step of a party. -/
def step (capacity : Nat) : Party → System ω τ μ → Option (System ω τ μ)
  | .producer, s => plan.stepProducer capacity s
  | .consumer, s => plan.stepConsumer s

/-- Follows a schedule; nothing where a party that has to wait is to take a step. -/
def run (capacity : Nat) : List Party → System ω τ μ → Option (System ω τ μ)
  | [], s => some s
  | party :: rest, s => (plan.step capacity party s).bind (run capacity rest)

end Plan

/-! ## Begin and end -/

namespace System

/-- The drain before anybody has taken a step. -/
def start (w : ω) (m : μ) : System ω τ μ := ⟨.beginning, [], .receiving [], w, m, false, []⟩

/-- What the drain of a queue reports once both parties are done. -/
def report? (queue : Queue) (s : System ω τ μ) : Option (Except Failure DrainReport) :=
  match s.producer, s.consumer with
  | .closed _, .ended none => some (.error (.delivery queue.name))
  | .closed (.ok (produced, marked)), .ended (some delivered) =>
    some (.ok ⟨queue, produced, marked, delivered⟩)
  | .closed (.error cause), .ended (some _) => some (.error cause)
  | _, _ => none

end System

end Registrar.Mail
