import Registrar.Proofs.Mail.Channel
import Registrar.Warehouse.Memory
/-!
# Any order of steps

However the steps of producer and consumer interleave, and however little the channel holds, a drain
comes to the same end. What a producer is still going to do does not depend on its consumer
(`Plan.Foresees`), and what a consumer is still going to do depends only on the envelopes that it has
not taken yet, whether they are in the channel or still to be sent (`Consumer.finish`). A step moves
an envelope from one place to the other at most, so the end that is in sight stays the same
(`OnCourse.step`). Since the commit is the last envelope, the consumer is there for every envelope
before, and nobody waits for somebody who waits.

Main statement: `safe_run`.
-/
namespace Registrar.Warehouse

variable {ω τ σ α : Type} (warehouse : Warehouse ω τ)

/-- Ends a transaction after a conversation. -/
def conclude (outcome : Outcome ω τ σ α) : Except Failure α × σ × ω :=
  match outcome.result with
  | .ok value =>
    match warehouse.commit outcome.transaction outcome.warehouse with
    | (.ok (), w) => (.ok value, outcome.state, w)
    | (.error cause, w) => (.error cause, outcome.state, w)
  | .error cause =>
    (.error cause, outcome.state,
      (warehouse.rollback outcome.transaction outcome.warehouse).2)

theorem transact_of_begin {warehouse : Warehouse ω τ} {mode : Mode} {w w' : ω} {tx : τ}
    (h : warehouse.begin mode w = (.ok tx, w')) (task : Task σ α) (state : σ) :
    warehouse.transact mode task state w =
      warehouse.conclude (warehouse.converse (task state) tx w') := by
  rw [transact, h]
  rfl

end Registrar.Warehouse

namespace Registrar.Mail

variable {ω τ μ : Type}

/-! ## What is handed over -/

theorem deliverAll_recording_cons {mailer : Mailer μ} {message : Message} {delivery : Delivery}
    {m m' : μ} (h : mailer.deliver message m = (delivery, m')) (halive : delivery ≠ .died)
    (rest : List Message) (count : Nat) (before : List Handed) :
    deliverAll mailer.recording count (message :: rest) (before, m) =
      deliverAll mailer.recording (count + accepted [(message, delivery)]) rest
        (before ++ [(message, delivery)], m') := by
  cases delivery <;> simp_all [deliverAll, Mailer.recording, accepted]

/-- What a mailer is handed is the messages up to the one over which it breaks down. -/
theorem deliverAll_handed (mailer : Mailer μ) (messages : List Message) (count : Nat)
    (before : List Handed) (m : μ) :
    ∃ handed, (deliverAll mailer.recording count messages (before, m)).2.1 = before ++ handed ∧
      handed.map Prod.fst <+: messages ∧
      ((∀ entry ∈ handed, entry.2 ≠ .died) → handed.map Prod.fst = messages ∧
        (deliverAll mailer.recording count messages (before, m)).1 =
          some (count + accepted handed)) := by
  induction messages generalizing count before m with
  | nil => exact ⟨[], by simp [deliverAll], by simp, fun _ => ⟨rfl, by simp [deliverAll, accepted]⟩⟩
  | cons message rest ih =>
    rcases hdelivery : mailer.deliver message m with ⟨delivery, m'⟩
    by_cases hdied : delivery = .died
    · subst hdied
      refine ⟨[(message, .died)], ?_, by simp, fun halive => ?_⟩
      · simp only [deliverAll, Mailer.recording, hdelivery]
      · exact absurd rfl (halive (message, .died) List.mem_cons_self)
    · rw [deliverAll_recording_cons hdelivery hdied]
      obtain ⟨handed, hall, hinitial, hcomplete⟩ :=
        ih (count + accepted [(message, delivery)]) (before ++ [(message, delivery)]) m'
      refine ⟨(message, delivery) :: handed, by simp [hall], by simpa using hinitial, fun halive => ?_⟩
      obtain ⟨hmessages, hcount⟩ := hcomplete fun entry hentry =>
        halive entry (List.mem_cons_of_mem _ hentry)
      refine ⟨by simp [hmessages], hcount.trans ?_⟩
      have hsplit : accepted ((message, delivery) :: handed) =
          accepted [(message, delivery)] + accepted handed := by
        simp only [accepted, ← List.length_append, ← List.filter_append, List.singleton_append]
      rw [hsplit, Nat.add_assoc]

/-! ## What the consumer is going to do -/

/-- How many messages will have been accepted, and what the mailer will have been handed and will
remember, if the consumer is yet to take some envelopes. -/
def Consumer.finish (mailer : Mailer μ) (stream : List Envelope) (state : List Handed × μ) :
    Consumer → Option Nat × List Handed × μ
  | .receiving held => consume mailer.recording held stream state
  | .delivering accepted rest => deliverAll mailer.recording accepted rest state
  | .ended delivered => (delivered, state)

/-- What has been handed over stays handed over. -/
theorem Consumer.handed_initial_finish (mailer : Mailer μ) (stream : List Envelope)
    (handed : List Handed) (m : μ) (consumer : Consumer) :
    handed <+: (consumer.finish mailer stream (handed, m)).2.1 := by
  have hdeliver : ∀ (count : Nat) (messages : List Message),
      handed <+: (deliverAll mailer.recording count messages (handed, m)).2.1 := by
    intro count messages
    obtain ⟨more, hall, -⟩ := deliverAll_handed mailer messages count handed m
    rw [hall]
    exact List.prefix_append _ _
  cases consumer with
  | receiving held =>
    show handed <+: (consume mailer.recording held stream (handed, m)).2.1
    induction stream generalizing held with
    | nil => exact List.prefix_refl _
    | cons envelope rest ih =>
      cases envelope with
      | message message => exact ih _
      | commit => exact hdeliver 0 held
  | delivering accepted rest => exact hdeliver accepted rest
  | ended delivered => exact List.prefix_refl _

/-! ## What the producer is going to do -/

/-- What a producer is going to do: how it ends, what it sends and what it makes of the warehouse
before, whether a commit will be granted, and in how many steps. -/
structure Future (ω : Type) where
  result : Except Failure (Nat × Nat)
  envelopes : List Envelope
  warehouse : ω
  commits : Bool
  steps : Nat

/-- What a producer is going to do if somebody takes what it sends. -/
inductive Plan.Foresees (plan : Plan ω τ μ) : Producer τ → ω → Future ω → Prop
  | stop (result : Except Failure (Nat × Nat)) (w : ω) :
    Foresees plan (.closed result) w ⟨result, [], w, false, 0⟩
  | act {p p' : Producer τ} {w w' : ω} {f : Future ω} (h : plan.next p w = .act p' w')
      (hrest : Foresees plan p' w' f) : Foresees plan p w { f with steps := f.steps + 1 }
  | commit {p p' : Producer τ} {w w' : ω} {f : Future ω} (h : plan.next p w = .commit p' w')
      (hrest : Foresees plan p' w' f) :
      Foresees plan p w { f with commits := true, steps := f.steps + 1 }
  | send {p p' failed : Producer τ} {w : ω} {envelope : Envelope} {f : Future ω}
      (h : plan.next p w = .send envelope p' failed) (hrest : Foresees plan p' w f) :
      Foresees plan p w { f with envelopes := envelope :: f.envelopes, steps := f.steps + 1 }

namespace Plan

variable (plan : Plan ω τ μ)

/-- The messages of the rows that the producer selects. -/
def Rendered (w : ω) (messages : List Message) : Prop :=
  ∃ tx w' items, plan.warehouse.begin .snapshot w = (.ok tx, w') ∧
    (plan.warehouse.answer (.unseen plan.queue) tx w').1 = .ok items ∧
    items.map (Item.message plan.templates plan.base) = messages.map .ok

/-- A producer that renders items sends the message of each, or of each before one that has none, in
which case it aborts; `sendAll` agrees. -/
theorem foresees_rendering (tx : τ) (count : Nat) (items : List Item) (w : ω) :
    (∃ messages : List Message,
      items.map (Item.message plan.templates plan.base) = messages.map .ok ∧
      (∀ sent, sendAll plan.templates plan.base items sent =
        .done () (sent ++ messages.map .message)) ∧
      ∀ f, plan.Foresees (.rendering tx count []) w f → ∃ steps,
        plan.Foresees (.rendering tx count items) w
          { f with envelopes := messages.map .message ++ f.envelopes, steps }) ∨
    (∃ cause, ∃ messages : List Message,
      (∀ sent, sendAll plan.templates plan.base items sent =
        .fail cause (sent ++ messages.map .message)) ∧
      ∀ f, plan.Foresees (.aborting tx cause) w f → ∃ steps,
        plan.Foresees (.rendering tx count items) w
          { f with envelopes := messages.map .message ++ f.envelopes, steps }) := by
  induction items with
  | nil =>
    exact Or.inl ⟨[], rfl, by simp [sendAll, pure], fun f hf => ⟨f.steps, hf⟩⟩
  | cons item rest ih =>
    cases hmessage : item.message plan.templates plan.base with
    | error cause =>
      refine Or.inr ⟨cause, [], fun sent => ?_, fun f hf => ⟨_, .act ?_ hf⟩⟩
      · simp [sendAll, hmessage, Task.lift, Task.fail, bind, Program.bind]
      · simp only [next, hmessage]
    | ok message =>
      have hsend : ∀ sent, sendAll plan.templates plan.base (item :: rest) sent =
          sendAll plan.templates plan.base rest (sent ++ [.message message]) := fun sent => by
        simp [sendAll, hmessage, Task.lift, Task.change, bind, pure, Program.bind]
      have hrender : plan.next (.rendering tx count (item :: rest)) w =
          .act (.sending tx count message rest) w := by
        simp only [next, hmessage]
      rcases ih with ⟨messages, hall, hdone, hforesees⟩ | ⟨cause, messages, hfail, hforesees⟩
      · refine Or.inl ⟨message :: messages, by simp [hmessage, hall], fun sent => ?_, fun f hf => ?_⟩
        · rw [hsend, hdone]
          simp
        · obtain ⟨steps, hrest⟩ := hforesees f hf
          exact ⟨_, .act hrender (.send rfl hrest)⟩
      · refine Or.inr ⟨cause, message :: messages, fun sent => ?_, fun f hf => ?_⟩
        · rw [hsend, hfail]
          simp
        · obtain ⟨steps, hrest⟩ := hforesees f hf
          exact ⟨_, .act hrender (.send rfl hrest)⟩

/-- A producer that has closed the channel is done. -/
theorem eq_of_foresees_closed {plan : Plan ω τ μ} {result : Except Failure (Nat × Nat)} {w : ω}
    {f : Future ω} (h : plan.Foresees (.closed result) w f) : f = ⟨result, [], w, false, 0⟩ := by
  cases h with
  | stop => rfl
  | act hnext => cases hnext
  | commit hnext => cases hnext
  | send hnext => cases hnext

theorem foresees_closing (result : Except Failure (Nat × Nat)) (w : ω) :
    plan.Foresees (.closing result) w ⟨result, [], w, false, 1⟩ :=
  .act rfl (.stop result w)

theorem foresees_aborting (tx : τ) (cause : Failure) (w : ω) :
    plan.Foresees (.aborting tx cause) w
      ⟨.error cause, [], (plan.warehouse.rollback tx w).2, false, 2⟩ :=
  .act rfl (plan.foresees_closing (.error cause) _)

/-- What a producer is going to do is what the transaction of a drain does: it sends messages, and
the word of the commit if there is one. -/
structure Told (w : ω) (f : Future ω) (messages : List Message) : Prop where
  foreseen : plan.Foresees .beginning w f
  transact : plan.warehouse.transact .snapshot (fill plan.templates plan.base plan.queue) [] w =
    (f.result, messages.map .message, f.warehouse)
  envelopes : f.envelopes = Mail.envelopes f.result (messages.map .message)
  commits : f.commits = f.result.isOk
  rendered : f.commits = true → plan.Rendered w messages

/-- A producer with all its messages marks the rows and commits; `mark` and a commit agree. -/
theorem foresees_marking (tx : τ) (count : Nat) (w : ω) :
    ∃ f, plan.Foresees (.rendering tx count []) w f ∧ f.commits = f.result.isOk ∧
      f.envelopes = Mail.envelopes f.result [] ∧
      ∀ sent, plan.warehouse.conclude (plan.warehouse.converse (mark plan.queue count sent) tx w) =
        (f.result, sent, f.warehouse) := by
  rcases hmark : plan.warehouse.answer (.markSeen plan.queue) tx w with ⟨cause | marked, tx', w'⟩
  · have hnext : plan.next (.rendering tx count []) w = .act (.aborting tx' cause) w' := by
      simp only [next, hmark]
    refine ⟨_, .act hnext (plan.foresees_aborting tx' cause w'), rfl, rfl, fun sent => ?_⟩
    simp only [mark, Warehouse.converse, hmark, Warehouse.conclude]
  have hnext : plan.next (.rendering tx count []) w = .act (.committing tx' (count, marked)) w' := by
    simp only [next, hmark]
  rcases hcommit : plan.warehouse.commit tx' w' with ⟨cause | ⟨⟩, w''⟩
  · have hnext' : plan.next (.committing tx' (count, marked)) w' =
        .act (.closing (.error cause)) w'' := by
      simp only [next, hcommit]
    refine ⟨_, .act hnext (.act hnext' (plan.foresees_closing _ w'')), rfl, rfl, fun sent => ?_⟩
    simp only [mark, Warehouse.converse, hmark, Warehouse.conclude, hcommit]
  · have hnext' : plan.next (.committing tx' (count, marked)) w' =
        .commit (.confirming (count, marked)) w'' := by
      simp only [next, hcommit]
    refine ⟨_, .act hnext (.commit hnext' (.send rfl (plan.foresees_closing _ w''))), rfl, rfl,
      fun sent => ?_⟩
    simp only [mark, Warehouse.converse, hmark, Warehouse.conclude, hcommit]

theorem exists_told (w : ω) : ∃ f messages, plan.Told w f messages := by
  rcases hbegin : plan.warehouse.begin .snapshot w with ⟨cause | tx, w₁⟩
  · have hnext : plan.next .beginning w = .act (.closing (.error cause)) w₁ := by
      simp only [next, hbegin]
    refine ⟨_, [], .act hnext (plan.foresees_closing _ _), ?_, rfl, rfl, by simp⟩
    simp only [Warehouse.transact, hbegin, List.map_nil]
  have hnext : plan.next .beginning w = .act (.selecting tx) w₁ := by
    simp only [next, hbegin]
  rcases hselect : plan.warehouse.answer (.unseen plan.queue) tx w₁ with ⟨cause | items, tx₂, w₂⟩
  · have hnext' : plan.next (.selecting tx) w₁ = .act (.aborting tx₂ cause) w₂ := by
      simp only [next, hselect]
    refine ⟨_, [], .act hnext (.act hnext' (plan.foresees_aborting _ _ _)), ?_, rfl, rfl, by simp⟩
    simp only [Warehouse.transact_of_begin hbegin, fill_eq, Warehouse.converse, hselect,
      Warehouse.conclude, List.map_nil]
  have hnext' : plan.next (.selecting tx) w₁ = .act (.rendering tx₂ items.length items) w₂ := by
    simp only [next, hselect]
  have htransact : plan.warehouse.transact .snapshot (fill plan.templates plan.base plan.queue) [] w =
      plan.warehouse.conclude (plan.warehouse.converse
        ((sendAll plan.templates plan.base items []).bind fun _ sent =>
          mark plan.queue items.length sent) tx₂ w₂) := by
    simp only [Warehouse.transact_of_begin hbegin, fill_eq, Warehouse.converse, hselect]
  rcases plan.foresees_rendering tx₂ items.length items w₂ with
    ⟨messages, hall, hsend, hforesees⟩ | ⟨cause, messages, hsend, hforesees⟩
  · obtain ⟨f, hmark, hcommits, henvelopes, hconclude⟩ := plan.foresees_marking tx₂ items.length w₂
    obtain ⟨steps, hrest⟩ := hforesees f hmark
    refine ⟨_, messages, .act hnext (.act hnext' hrest), ?_, ?_, hcommits, fun _ =>
      ⟨tx, w₁, items, hbegin, congrArg Prod.fst hselect, hall⟩⟩
    · rw [htransact, hsend]
      exact hconclude _
    · rw [henvelopes]
      cases f.result <;> simp [Mail.envelopes]
  · obtain ⟨steps, hrest⟩ := hforesees _ (plan.foresees_aborting tx₂ cause w₂)
    refine ⟨_, messages, .act hnext (.act hnext' hrest), ?_, by simp [Mail.envelopes], rfl, by simp⟩
    rw [htransact, hsend]
    rfl

end Plan

/-! ## What a drain is going to come to -/

theorem System.ended_of_report {queue : Queue} {s : System ω τ μ}
    {report : Except Failure DrainReport} (h : s.report? queue = some report) :
    (∃ result, s.producer = .closed result) ∧ ∃ delivered, s.consumer = .ended delivered := by
  unfold System.report? at h
  split at h
  · exact ⟨⟨_, ‹_›⟩, _, ‹_›⟩
  · exact ⟨⟨_, ‹_›⟩, _, ‹_›⟩
  · exact ⟨⟨_, ‹_›⟩, _, ‹_›⟩
  · cases h

/-- No envelope follows the word of the commit. -/
def CommitLast : List Envelope → Prop
  | [] => True
  | .message _ :: rest => CommitLast rest
  | .commit :: rest => rest = []

theorem commitLast_envelopes {α : Type} (result : Except Failure α) (messages : List Message) :
    CommitLast (envelopes result (messages.map .message)) := by
  have hmessages : ∀ tail, CommitLast tail → CommitLast (messages.map .message ++ tail) := by
    intro tail htail
    induction messages with
    | nil => exact htail
    | cons message rest ih => exact ih
  cases result with
  | ok value => exact hmessages [.commit] rfl
  | error cause => simpa [envelopes] using hmessages [] trivial

namespace System

/-- The drain once both parties are done, given what the producer is going to do. -/
def finish (mailer : Mailer μ) (f : Future ω) (s : System ω τ μ) : System ω τ μ :=
  let (delivered, handed, m) :=
    s.consumer.finish mailer (s.channel ++ f.envelopes) (s.handed, s.mailer)
  ⟨.closed f.result, [], .ended delivered, f.warehouse, m, s.committed || f.commits, handed⟩

/-- How many steps the two parties have left at most. -/
def remaining (f : Future ω) (s : System ω τ μ) : Nat :=
  f.steps + 2 * (s.channel ++ f.envelopes).length + match s.consumer with
    | .receiving held => held.length + 2
    | .delivering _ rest => rest.length + 1
    | .ended _ => 0

end System

/-- The consumer takes envelopes. -/
def Consumer.isReceiving : Consumer → Bool
  | .receiving _ => true
  | _ => false

/-- What a drain is going to do is in sight, and the parties keep to the rules: the channel holds no
more than it may, the commit is the last envelope, a consumer that takes no more has missed nothing,
and whoever acts on a commit has had it granted. -/
structure OnCourse (plan : Plan ω τ μ) (capacity : Nat) (f : Future ω) (s : System ω τ μ) : Prop where
  foreseen : plan.Foresees s.producer s.warehouse f
  room : s.channel.length ≤ max 1 capacity
  last : CommitLast (s.channel ++ f.envelopes)
  missed : s.consumer.isReceiving = false → s.channel ++ f.envelopes = []
  confirming : ∀ counts, s.producer = .confirming counts → s.committed = true
  underway : .commit ∈ s.channel → s.committed = true
  delivering : ∀ accepted rest, s.consumer = .delivering accepted rest → s.committed = true
  handed : s.handed ≠ [] → s.committed = true

section

variable {plan : Plan ω τ μ} {capacity : Nat} {f : Future ω} {s s' : System ω τ μ}

/-- Only a commit that is granted is confirmed. -/
theorem Plan.ne_confirming_of_act {p p' : Producer τ} {w w' : ω} (h : plan.next p w = .act p' w')
    (counts : Nat × Nat) : p' ≠ .confirming counts := by
  rintro rfl
  unfold Plan.next at h
  split at h <;> (try split at h) <;> cases h

/-- What is sent is a message, or the word of a commit that is being confirmed. -/
theorem Plan.next_eq_send {p p' failed : Producer τ} {w : ω} {envelope : Envelope}
    (h : plan.next p w = .send envelope p' failed) :
    (∀ counts, p' ≠ .confirming counts) ∧
      ((∃ message, envelope = .message message) ∨ ∃ counts, p = .confirming counts) := by
  unfold Plan.next at h
  split at h <;> (try split at h) <;> cases h
  · exact ⟨by simp, Or.inl ⟨_, rfl⟩⟩
  · exact ⟨by simp, Or.inr ⟨_, rfl⟩⟩

theorem Plan.closed_of_stop {p : Producer τ} {w : ω} (h : plan.next p w = .stop) :
    ∃ result, p = .closed result := by
  unfold Plan.next at h
  split at h <;> (try split at h) <;> cases h
  exact ⟨_, rfl⟩

theorem Plan.isSome_of_envelope {held : List Message} (hconsumer : s.consumer = .receiving held)
    (hne : s.channel ≠ []) : (plan.stepConsumer s).isSome := by
  cases hchannel : s.channel with
  | nil => exact absurd hchannel hne
  | cons envelope rest => cases envelope <;> simp [Plan.stepConsumer, hconsumer, hchannel]

theorem Plan.isSome_of_delivering {accepted : Nat} {rest : List Message}
    (hconsumer : s.consumer = .delivering accepted rest) : (plan.stepConsumer s).isSome := by
  cases rest with
  | nil => simp [Plan.stepConsumer, hconsumer]
  | cons message rest =>
    rcases hdeliver : plan.mailer.deliver message s.mailer with ⟨delivery, m⟩
    cases delivery <;> simp [Plan.stepConsumer, hconsumer, hdeliver]

namespace OnCourse

/-- A consumer that may still miss something is receiving. -/
theorem receiving_of_ne_nil (h : OnCourse plan capacity f s)
    (hne : s.channel ++ f.envelopes ≠ []) : ∃ held, s.consumer = .receiving held := by
  have hmissed := h.missed
  cases hconsumer : s.consumer with
  | receiving held => exact ⟨held, rfl⟩
  | delivering accepted rest => exact absurd (hmissed (by rw [hconsumer]; rfl)) hne
  | ended delivered => exact absurd (hmissed (by rw [hconsumer]; rfl)) hne

theorem stepProducer (h : OnCourse plan capacity f s)
    (hstep : plan.stepProducer capacity s = some s') :
    ∃ f', OnCourse plan capacity f' s' ∧ s'.finish plan.mailer f' = s.finish plan.mailer f ∧
      s'.remaining f' < s.remaining f := by
  have hreceiving := h.receiving_of_ne_nil
  obtain ⟨producer, channel, consumer, w, m, committed, handed⟩ := s
  obtain ⟨hforeseen, hroom, hlast, hmissed, hconfirming, hunderway, hdelivering, hhanded⟩ := h
  cases hforeseen with
  | stop result =>
    simp only [Plan.stepProducer, Plan.next, reduceCtorEq] at hstep
  | @act _ producer' _ w' f hnext hrest =>
    simp only [Plan.stepProducer, hnext, Option.some.injEq] at hstep
    subst hstep
    refine ⟨f, ⟨hrest, hroom, hlast, hmissed, fun counts heq => ?_, hunderway, hdelivering, hhanded⟩,
      rfl, ?_⟩
    · exact absurd heq (Plan.ne_confirming_of_act hnext counts)
    · simp only [System.remaining]
      omega
  | @commit _ producer' _ w' f hnext hrest =>
    simp only [Plan.stepProducer, hnext, Option.some.injEq] at hstep
    subst hstep
    refine ⟨f, ⟨hrest, hroom, hlast, hmissed, fun _ _ => rfl, fun _ => rfl, fun _ _ _ => rfl,
      fun _ => rfl⟩, ?_, ?_⟩
    · simp [System.finish]
    · simp only [System.remaining]
      omega
  | @send _ producer' failed _ envelope f hnext hrest =>
    -- there is an envelope to come, so the consumer is there to take it
    obtain ⟨held, rfl⟩ := hreceiving (by simp)
    obtain ⟨hother, hsent⟩ := Plan.next_eq_send hnext
    simp only [Plan.stepProducer, hnext, Option.ite_none_right_eq_some, Option.some.injEq] at hstep
    obtain ⟨hfree, rfl⟩ := hstep
    have hstream : (channel ++ [envelope]) ++ f.envelopes = channel ++ envelope :: f.envelopes :=
      (List.append_cons _ _ _).symm
    refine ⟨f, ⟨hrest, ?_, ?_, nofun, fun counts heq => absurd heq (hother counts), fun hmem => ?_,
      hdelivering, hhanded⟩, ?_, ?_⟩
    · simp only [List.length_append, List.length_singleton]
      omega
    · rw [hstream]
      exact hlast
    · rcases List.mem_append.1 hmem with hold | hnew
      · exact hunderway hold
      · obtain rfl := List.mem_singleton.1 hnew
        rcases hsent with ⟨message, hmessage⟩ | ⟨counts, rfl⟩
        · cases hmessage
        · exact hconfirming counts rfl
    · simp only [System.finish, hstream]
    · simp only [System.remaining, hstream]
      omega

theorem stepConsumer (h : OnCourse plan capacity f s) (hstep : plan.stepConsumer s = some s') :
    OnCourse plan capacity f s' ∧ s'.finish plan.mailer f = s.finish plan.mailer f ∧
      s'.remaining f < s.remaining f := by
  obtain ⟨producer, channel, consumer, w, m, committed, handed⟩ := s
  obtain ⟨hforeseen, hroom, hlast, hmissed, hconfirming, hunderway, hdelivering, hhanded⟩ := h
  simp only [Plan.stepConsumer] at hstep
  split at hstep
  · rename_i held message channel
    cases hstep
    refine ⟨⟨hforeseen, ?_, hlast, nofun, hconfirming, fun hmem => ?_, nofun, hhanded⟩, rfl, ?_⟩
    · exact Nat.le_of_succ_le hroom
    · exact hunderway (List.mem_cons_of_mem _ hmem)
    · simp [System.remaining]
      omega
  · rename_i held channel
    cases hstep
    have hnone : channel ++ f.envelopes = [] := hlast
    have hcommitted : committed = true := hunderway List.mem_cons_self
    refine ⟨⟨hforeseen, ?_, ?_, fun _ => hnone, hconfirming, fun _ => hcommitted,
      fun _ _ _ => hcommitted, hhanded⟩, rfl, ?_⟩
    · exact Nat.le_of_succ_le hroom
    · exact hnone ▸ trivial
    · simp [System.remaining]
      omega
  · rename_i held
    split at hstep
    · cases hstep
      obtain rfl := Plan.eq_of_foresees_closed hforeseen
      exact ⟨⟨hforeseen, hroom, hlast, fun _ => rfl, hconfirming, hunderway, nofun, hhanded⟩, rfl,
        by simp [System.remaining]⟩
    · cases hstep
  · rename_i accepted
    cases hstep
    exact ⟨⟨hforeseen, hroom, hlast, hmissed, hconfirming, hunderway, nofun, hhanded⟩, rfl,
      by simp [System.remaining]⟩
  · rename_i accepted message rest
    have hcommitted : committed = true := hdelivering _ _ rfl
    have hnone : channel ++ f.envelopes = [] := hmissed rfl
    rcases hdeliver : plan.mailer.deliver message m with ⟨delivery, m'⟩
    simp only [hdeliver] at hstep
    cases delivery <;> cases hstep
    all_goals
      refine ⟨⟨hforeseen, hroom, hlast, fun _ => hnone, hconfirming, hunderway,
        fun _ _ _ => hcommitted, fun _ => hcommitted⟩, ?_, by simp [System.remaining]⟩
      simp only [System.finish, Consumer.finish, deliverAll, Mailer.recording, hdeliver]
  · cases hstep

/-- **One step**: the end in sight stays the same, and it comes nearer. -/
theorem step {party : Party} (h : OnCourse plan capacity f s)
    (hstep : plan.step capacity party s = some s') :
    ∃ f', OnCourse plan capacity f' s' ∧ s'.finish plan.mailer f' = s.finish plan.mailer f ∧
      s'.remaining f' < s.remaining f := by
  cases party with
  | producer => exact h.stepProducer hstep
  | consumer => exact ⟨f, h.stepConsumer hstep⟩

theorem run {schedule : List Party} (h : OnCourse plan capacity f s)
    (hrun : plan.run capacity schedule s = some s') :
    ∃ f', OnCourse plan capacity f' s' ∧ s'.finish plan.mailer f' = s.finish plan.mailer f ∧
      schedule.length + s'.remaining f' ≤ s.remaining f := by
  induction schedule generalizing s f with
  | nil =>
    cases hrun
    exact ⟨f, h, rfl, by simp⟩
  | cons party rest ih =>
    obtain ⟨middle, hstep, hrest⟩ := Option.bind_eq_some_iff.1 hrun
    obtain ⟨f', h', hfinish, hless⟩ := h.step hstep
    obtain ⟨f'', h'', hfinish', hle⟩ := ih h' hrest
    refine ⟨f'', h'', hfinish'.trans hfinish, ?_⟩
    rw [List.length_cons]
    omega

/-- A producer that has to wait is done, or the channel is not empty. -/
theorem closed_or_ne_nil_of_waits (hwaits : plan.stepProducer capacity s = none) :
    (∃ result, s.producer = .closed result) ∨ s.channel ≠ [] := by
  unfold Plan.stepProducer at hwaits
  split at hwaits
  · cases hwaits
  · cases hwaits
  · right
    split at hwaits
    · cases hwaits
    · split at hwaits
      · cases hwaits
      · rename_i hfull
        intro hnil
        rw [hnil, List.length_nil] at hfull
        exact hfull (Nat.lt_of_lt_of_le Nat.zero_lt_one (Nat.le_max_left 1 capacity))
  · rename_i hstop
    exact Or.inl (Plan.closed_of_stop hstop)

/-- Somebody can take a step as long as not both parties are done. -/
theorem live (h : OnCourse plan capacity f s) (hreport : s.report? plan.queue = none) :
    ∃ party, (plan.step capacity party s).isSome := by
  cases hproducer : plan.stepProducer capacity s with
  | some s' => exact ⟨.producer, by rw [Plan.step, hproducer]; rfl⟩
  | none =>
    refine ⟨.consumer, ?_⟩
    rw [Plan.step]
    rcases closed_or_ne_nil_of_waits hproducer with ⟨result, hclosed⟩ | hne
    · cases hconsumer : s.consumer with
      | receiving held =>
        cases hchannel : s.channel with
        | nil => simp [Plan.stepConsumer, hconsumer, hchannel, hclosed]
        | cons envelope rest => exact Plan.isSome_of_envelope hconsumer (by simp [hchannel])
      | delivering accepted rest => exact Plan.isSome_of_delivering hconsumer
      | ended delivered =>
        cases delivered <;> cases result <;> simp [System.report?, hclosed, hconsumer] at hreport
    · obtain ⟨held, hconsumer⟩ := h.receiving_of_ne_nil fun hnil =>
        hne (List.append_eq_nil_iff.1 hnil).1
      exact Plan.isSome_of_envelope hconsumer hne

/-- The mailer is called only after the commit. -/
theorem committed_of_call (h : OnCourse plan capacity f s)
    (hstep : plan.stepConsumer s = some s') (hcall : s'.handed ≠ s.handed) : s.committed = true := by
  unfold Plan.stepConsumer at hstep
  split at hstep
  · cases hstep
    exact absurd rfl hcall
  · cases hstep
    exact absurd rfl hcall
  · split at hstep <;> cases hstep
    exact absurd rfl hcall
  · cases hstep
    exact absurd rfl hcall
  · rename_i accepted message rest hconsumer
    exact h.delivering accepted (message :: rest) hconsumer
  · cases hstep

/-- Once both parties are done, the end is there. -/
theorem finish_of_report (h : OnCourse plan capacity f s) {report : Except Failure DrainReport}
    (hreport : s.report? plan.queue = some report) : s.finish plan.mailer f = s := by
  obtain ⟨⟨result, hproducer⟩, delivered, hconsumer⟩ := System.ended_of_report hreport
  obtain ⟨producer, channel, consumer, w, m, committed, handed⟩ := s
  subst hproducer hconsumer
  obtain rfl := Plan.eq_of_foresees_closed h.foreseen
  have hnone : channel ++ [] = [] := h.missed rfl
  rw [List.append_nil] at hnone
  subst hnone
  simp [System.finish, Consumer.finish]

end OnCourse

end

/-! ## Every run -/

namespace Plan

variable {plan : Plan ω τ μ} {w : ω} {f : Future ω} {messages : List Message}

/-- What a drain comes to if its parties take turns as `drain` has it. -/
def last (plan : Plan ω τ μ) (w : ω) (m : μ) : System ω τ μ :=
  let (result, sent, w) :=
    plan.warehouse.transact .snapshot (fill plan.templates plan.base plan.queue) [] w
  let (delivered, handed, m) := consume plan.mailer.recording [] (envelopes result sent) ([], m)
  ⟨.closed result, [], .ended delivered, w, m, result.isOk, handed⟩

/-- What a drain comes to is what `drain` says. -/
theorem report_last (plan : Plan ω τ μ) (w : ω) (m : μ) :
    (plan.last w m).report? plan.queue =
        some (drain plan.warehouse plan.mailer plan.templates plan.base plan.queue w m).1 ∧
      ((plan.last w m).warehouse, (plan.last w m).mailer) =
        (drain plan.warehouse plan.mailer plan.templates plan.base plan.queue w m).2 := by
  simp only [last, drain]
  rcases plan.warehouse.transact .snapshot (fill plan.templates plan.base plan.queue) [] w with
    ⟨result, sent, w'⟩
  obtain ⟨hcount, hm⟩ := consume_recording plan.mailer (envelopes result sent) [] [] m
  rcases hrecorded : consume plan.mailer.recording [] (envelopes result sent) ([], m) with
    ⟨delivered, handed, m'⟩
  rw [hrecorded] at hcount hm
  rcases hplain : consume plan.mailer [] (envelopes result sent) m with ⟨delivered', m''⟩
  rw [hplain] at hcount hm
  obtain rfl : delivered = delivered' := hcount
  obtain rfl : m' = m'' := hm
  cases delivered <;> cases result <;> simp [System.report?]

namespace Told

theorem finish_start (h : plan.Told w f messages) (m : μ) :
    (System.start w m).finish plan.mailer f = plan.last w m := by
  simp only [System.finish, System.start, Consumer.finish, last, h.transact, h.envelopes, h.commits,
    List.nil_append, Bool.false_or]

theorem onCourse (h : plan.Told w f messages) (capacity : Nat) (m : μ) :
    OnCourse plan capacity f (System.start w m) where
  foreseen := h.foreseen
  room := Nat.zero_le _
  last := by
    rw [System.start, h.envelopes]
    exact commitLast_envelopes f.result messages
  missed := nofun
  confirming := nofun
  underway := nofun
  delivering := nofun
  handed hne := absurd rfl hne

theorem last_eq (h : plan.Told w f messages) (m : μ) :
    let ended := consume plan.mailer.recording [] (Mail.envelopes f.result (messages.map .message))
      ([], m)
    plan.last w m = ⟨.closed f.result, [], .ended ended.1, f.warehouse, ended.2.2, f.result.isOk,
      ended.2.1⟩ := by
  simp only [last, h.transact]

/-- Without a commit the mailer will not have been called. -/
theorem handed_of_not_committed (h : plan.Told w f messages) {m : μ}
    (hcommitted : (plan.last w m).committed = false) : (plan.last w m).handed = [] := by
  rw [h.last_eq] at hcommitted ⊢
  cases hresult : f.result with
  | ok counts => simp [hresult, Except.isOk, Except.toBool] at hcommitted
  | error cause => simp [Mail.envelopes, consume_messages]

/-- With a commit it will have been handed the messages, up to the one over which it breaks down. -/
theorem handed_of_committed (h : plan.Told w f messages) {m : μ}
    (hcommitted : (plan.last w m).committed = true) :
    plan.Rendered w messages ∧ (plan.last w m).handed.map Prod.fst <+: messages ∧
      ((∀ entry ∈ (plan.last w m).handed, entry.2 ≠ .died) →
        (plan.last w m).handed.map Prod.fst = messages ∧
          (plan.last w m).consumer = .ended (some (accepted (plan.last w m).handed))) := by
  rw [h.last_eq] at hcommitted ⊢
  refine ⟨h.rendered (h.commits.trans hcommitted), ?_⟩
  cases hresult : f.result with
  | error cause => simp [hresult, Except.isOk, Except.toBool] at hcommitted
  | ok counts =>
    obtain ⟨handed, hall, hinitial, hcomplete⟩ := deliverAll_handed plan.mailer messages 0 [] m
    simp only [Mail.envelopes, consume_commit, hall, List.nil_append]
    refine ⟨hinitial, fun halive => ?_⟩
    obtain ⟨hmessages, hcount⟩ := hcomplete halive
    rw [hcount, Nat.zero_add]
    exact ⟨hmessages, rfl⟩

end Told

end Plan

/-- Whatever the order of steps, a drain keeps to the rules. -/
structure Safe (plan : Plan ω τ μ) (capacity : Nat) (w : ω) (m : μ) (s : System ω τ μ) : Prop where
  /-- The channel never holds more than it may. -/
  room : s.channel.length ≤ max 1 capacity
  /-- The mailer is called only once the commit has been granted, -/
  called : ∀ s', plan.step capacity .consumer s = some s' → s'.handed ≠ s.handed →
    s.committed = true
  /-- and is handed the messages of the rows, in order; -/
  ordered : s.handed ≠ [] → s.committed = true ∧
    ∃ messages, plan.Rendered w messages ∧ s.handed.map Prod.fst <+: messages
  /-- in the end all of them, unless it breaks down. -/
  complete : ∀ report, s.report? plan.queue = some report → s.committed = true →
    (∀ entry ∈ s.handed, entry.2 ≠ .died) →
    ∃ messages, plan.Rendered w messages ∧ s.handed.map Prod.fst = messages ∧
      s.consumer = .ended (some (accepted s.handed))
  /-- As long as not both parties are done, one of them need not wait, -/
  live : s.report? plan.queue = none → ∃ party, (plan.step capacity party s).isSome
  /-- and there is a way to the end. -/
  reaches : ∃ schedule, plan.run capacity schedule s = some (plan.last w m)
  /-- The end is always the same, and it is what `drain` comes to. -/
  outcome : ∀ report, s.report? plan.queue = some report → s = plan.last w m ∧
    drain plan.warehouse plan.mailer plan.templates plan.base plan.queue w m =
      (report, s.warehouse, s.mailer)

namespace OnCourse

variable {plan : Plan ω τ μ} {capacity : Nat} {f : Future ω} {s last : System ω τ μ}

/-- There is a way to the end. -/
theorem exists_run (h : OnCourse plan capacity f s) (hfinish : s.finish plan.mailer f = last) :
    ∃ schedule, plan.run capacity schedule s = some last := by
  induction hn : s.remaining f using Nat.strongRecOn generalizing s f with
  | ind n ih =>
    cases hreport : s.report? plan.queue with
    | some report => exact ⟨[], congrArg some ((h.finish_of_report hreport).symm.trans hfinish)⟩
    | none =>
      obtain ⟨party, hparty⟩ := h.live hreport
      obtain ⟨s', hstep⟩ := Option.isSome_iff_exists.1 hparty
      obtain ⟨f', h', hfinish', hless⟩ := h.step hstep
      obtain ⟨schedule, hrun⟩ := ih _ (hn ▸ hless) h' (hfinish'.trans hfinish) rfl
      exact ⟨party :: schedule, by rw [Plan.run, hstep]; exact hrun⟩

end OnCourse

/-- No drain takes more steps than some number, whatever their order. -/
theorem exists_length_le (plan : Plan ω τ μ) (w : ω) (m : μ) :
    ∃ n, ∀ capacity schedule s, plan.run capacity schedule (System.start w m) = some s →
      schedule.length ≤ n := by
  obtain ⟨f, messages, htold⟩ := plan.exists_told w
  refine ⟨(System.start w m : System ω τ μ).remaining f, fun capacity schedule s hrun => ?_⟩
  obtain ⟨f', -, -, hle⟩ := (htold.onCourse capacity m).run hrun
  omega

/-- **Any order of steps**: over any warehouse, with any mailer and any capacity of the channel, a
drain keeps to the rules at every point of every run, and comes to the same end. -/
theorem safe_run {plan : Plan ω τ μ} {capacity : Nat} {w : ω} {m : μ} {schedule : List Party}
    {s : System ω τ μ} (h : plan.run capacity schedule (System.start w m) = some s) :
    Safe plan capacity w m s := by
  obtain ⟨f₀, messages, htold⟩ := plan.exists_told w
  obtain ⟨f, hcourse, hfinish, -⟩ := (htold.onCourse capacity m).run h
  rw [htold.finish_start] at hfinish
  have hinitial : s.handed <+: (plan.last w m).handed := by
    rw [← hfinish]
    exact Consumer.handed_initial_finish plan.mailer _ _ _ _
  have hend : ∀ report, s.report? plan.queue = some report → s = plan.last w m :=
    fun report hreport => (hcourse.finish_of_report hreport).symm.trans hfinish
  refine ⟨hcourse.room, fun s' => hcourse.committed_of_call, fun hne => ?_,
    fun report hreport hcommitted halive => ?_, hcourse.live, hcourse.exists_run hfinish,
    fun report hreport => ?_⟩
  · refine ⟨hcourse.handed hne, messages, ?_⟩
    cases hcommitted : (plan.last w m).committed with
    | true =>
      obtain ⟨hrendered, hall, -⟩ := htold.handed_of_committed hcommitted
      exact ⟨hrendered, (hinitial.map Prod.fst).trans hall⟩
    | false =>
      rw [htold.handed_of_not_committed hcommitted] at hinitial
      exact absurd (List.prefix_nil.1 hinitial) hne
  · obtain rfl := hend report hreport
    obtain ⟨hrendered, -, hcomplete⟩ := htold.handed_of_committed hcommitted
    exact ⟨messages, hrendered, hcomplete halive⟩
  · obtain rfl := hend report hreport
    obtain ⟨hlast, hleft⟩ := plan.report_last w m
    obtain rfl := Option.some.inj (hlast.symm.trans hreport)
    exact ⟨rfl, Prod.ext rfl hleft.symm⟩

/-- A drain of two rows over a channel with room for one envelope; the mailer has taken the first
message, and the producer has not closed the channel yet. -/
theorem safe_run_of_twoRows :
    let blank : Template := ⟨"blank", []⟩
    let row (user : Int) : Memory.QueueRow := ⟨.reset ⟨user, "a@b.c", "A", "k"⟩, none⟩
    let w := (({} : Memory.State).enqueue .passwordReset (row 1)).enqueue .passwordReset (row 2)
    let plan : Plan Memory.State Memory.Transaction Nat :=
      ⟨Memory.warehouse ⟨0, 0⟩, ⟨fun _ count => (.accepted, count + 1)⟩,
        ⟨blank, blank, blank, blank⟩, "", .passwordReset⟩
    let schedule := List.replicate 4 Party.producer ++ [.consumer] ++ List.replicate 4 .producer ++
      [.consumer, .producer, .consumer, .consumer]
    ∃ s, plan.run 0 schedule (System.start w 0) = some s ∧
      (s.committed, s.handed.length, s.mailer) = (true, 1, 1) ∧ Safe plan 0 w 0 s := by
  intro blank row w plan schedule
  have hstate : (plan.run 0 schedule (System.start w 0)).map
      (fun s => (s.committed, s.handed.length, s.mailer)) = some (true, 1, 1) := by
    decide +kernel
  obtain ⟨s, hrun, hs⟩ := Option.map_eq_some_iff.1 hstate
  exact ⟨s, hrun, hs, safe_run hrun⟩

end Registrar.Mail
