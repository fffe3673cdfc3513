import Registrar.Proofs.Mail.Envelopes
import Registrar.Proofs.Memory.Queues
/-!
# Drains over one warehouse

Any number of drains may be under way over one shared state (`Office`). Each of them goes on by single
requests of its program, the commit of its transaction and single deliveries, and these steps may
come in any order (`Event`).

A drain that is in conversation stands at one of four points of its program (`Errand.Stage`), so
`Stage.advance_cases` says what its next step can do. A drain that nobody disturbs takes the steps
that `drain` takes (`drain_eq_run`).
-/
namespace Registrar.Mail

open Memory (State QueueRow Transaction marking markedSince selected selectedRows isUnseenAt)

/-- Where a drain stands. -/
inductive Phase
  /-- Its producer goes on with a program. -/
  | talking (program : Program (List Envelope) (Nat × Nat)) (tx : Transaction)
  /-- Its transaction is committed; the consumer has handed over `done` messages and holds others. -/
  | delivering (done : Nat) (held : List Message)
  /-- It is over. -/
  | ended

/-- What a drain is about. -/
structure Errand where
  queue : Queue
  templates : Templates
  base : String
  /-- The shared state at the begin of the drain. -/
  snapshot : State

/-- A drain in the course of its life. -/
structure Drain extends Errand where
  phase : Phase

/-- A message in the hands of a mailer: whose it is, how many came before it, and what it says. -/
structure Handover where
  drain : Nat
  place : Nat
  message : Message
  deriving DecidableEq

/-- Drains over a shared state. -/
structure Office where
  shared : State
  /-- Every drain that began, in the order of their beginnings. -/
  drains : List Drain := []
  /-- The drains whose commits succeeded, in the order of their commits. -/
  committed : List Nat := []
  /-- What was handed to a mailer, in order. -/
  handed : List Handover := []

/-- What can happen; a drain is named by its place among the beginnings. -/
inductive Event
  | begin (queue : Queue) (templates : Templates) (base : String)
  /-- A producer makes its next request, or ends its transaction. -/
  | advance (drain : Nat) (now : Time.Instant)
  /-- A consumer hands its next message to its mailer, which does with it as it likes. -/
  | deliver (drain : Nat) (delivery : Delivery)
  /-- Somebody adds a row to a queue. -/
  | enqueue (queue : Queue) (row : QueueRow)

/-- The messages that a consumer holds once it hears of the commit. -/
def held : List Envelope → List Message
  | [] => []
  | .message message :: rest => message :: held rest
  | .commit :: _ => []

/-- The next step of a producer, and the shared state after it. -/
def advance (now : Time.Instant) :
    Program (List Envelope) (Nat × Nat) → Transaction → State → Phase × State
  | .ask request sent next, tx, shared =>
    match Memory.answer now request tx with
    | (.ok reply, tx) => (.talking (next reply) tx, shared)
    | (.error cause, tx) => (.talking (.fail cause sent) tx, shared)
  | .fail _ _, tx, shared => (.ended, (Memory.rollback tx shared).2)
  | .done _ sent, tx, shared =>
    match Memory.commit tx shared with
    | (.ok (), shared) => (.delivering 0 (held sent), shared)
    | (.error _, shared) => (.ended, shared)

/-- The drain at its begin. -/
def Drain.start (queue : Queue) (templates : Templates) (base : String) (shared : State) : Drain where
  queue := queue
  templates := templates
  base := base
  snapshot := shared
  phase := .talking (fill templates base queue []) (Memory.begin shared)

namespace Office

def setPhase (office : Office) (i : Nat) (drain : Drain) (phase : Phase) : Office :=
  { office with drains := office.drains.set i { drain with phase } }

/-- What happens; nothing happens to a drain that is not there or not at that point. -/
def step (office : Office) : Event → Office
  | .begin queue templates base =>
    { office with drains := office.drains ++ [Drain.start queue templates base office.shared] }
  | .advance i now =>
    match office.drains[i]? with
    | none => office
    | some drain =>
      match drain.phase with
      | .talking program tx =>
        match advance now program tx office.shared with
        | (.delivering done messages, shared) =>
          { office.setPhase i drain (.delivering done messages) with
            shared, committed := office.committed ++ [i] }
        | (phase, shared) => { office.setPhase i drain phase with shared }
      | _ => office
  | .deliver i delivery =>
    match office.drains[i]? with
    | none => office
    | some drain =>
      match drain.phase with
      | .delivering done (message :: rest) =>
        { office.setPhase i drain
            (if delivery = .died then .ended else .delivering (done + 1) rest) with
          handed := office.handed ++ [⟨i, done, message⟩] }
      | _ => office
  | .enqueue queue row => { office with shared := office.shared.enqueue queue row }

/-- What happens in the course of some events. -/
def run (office : Office) (events : List Event) : Office := events.foldl step office

theorem run_append (office : Office) (before later : List Event) :
    office.run (before ++ later) = (office.run before).run later := by
  simp [run, List.foldl_append]

end Office

/-! ## Producers -/

/-- The messages of the rows that a drain is to tell. -/
def Errand.Messages (errand : Errand) (messages : List Message) : Prop :=
  (selected (errand.snapshot.queues errand.queue)).map
    (Item.message errand.templates errand.base) = messages.map .ok

/-- The points of a producer's program, with the transaction there. -/
inductive Errand.Stage (errand : Errand) :
    Program (List Envelope) (Nat × Nat) → Transaction → Prop
  | selecting : Stage errand (fill errand.templates errand.base errand.queue [])
      (Memory.begin errand.snapshot)
  | marking {messages : List Message} (h : errand.Messages messages) :
      Stage errand (mark errand.queue messages.length (messages.map .message))
        (Memory.begin errand.snapshot)
  | ending {messages : List Message} (h : errand.Messages messages) (counts : Nat × Nat)
      (now : Time.Instant) :
      Stage errand (.done counts (messages.map .message))
        (Memory.marking now errand.queue errand.snapshot)
  | failing (cause : Failure) (messages : List Message) (tx : Transaction) :
      Stage errand (.fail cause (messages.map .message)) tx

theorem held_messages (messages : List Message) : held (messages.map .message) = messages := by
  induction messages with
  | nil => rfl
  | cons message rest ih => simp [held, ih]

/-- **One step of a producer**: it goes on to another point, or is over without having changed
anything, or it commits. -/
theorem Errand.Stage.advance_cases {errand : Errand} {program : Program (List Envelope) (Nat × Nat)}
    {tx : Transaction} (h : errand.Stage program tx) (now : Time.Instant) (shared : State) :
    (∃ program' tx', advance now program tx shared = (.talking program' tx', shared) ∧
      errand.Stage program' tx') ∨
    advance now program tx shared = (.ended, shared) ∨
    (∃ messages time, errand.Messages messages ∧
      (∀ position, isUnseenAt (errand.snapshot.queues errand.queue) position = true →
        isUnseenAt (shared.queues errand.queue) position = true) ∧
      advance now program tx shared =
        (.delivering 0 messages, markedSince time errand.queue errand.snapshot shared)) := by
  cases h with
  | selecting =>
    left
    have hanswer : Memory.answer now (.unseen errand.queue) (Memory.begin errand.snapshot) =
        (Memory.unseen errand.queue (Memory.begin errand.snapshot), Memory.begin errand.snapshot) := rfl
    simp only [fill_eq, advance, hanswer]
    rcases Memory.unseen_cases errand.queue (Memory.begin errand.snapshot) with
      ⟨-, cause, hfail⟩ | ⟨-, hselect⟩
    · rw [hfail]
      exact ⟨_, _, rfl, .failing cause [] _⟩
    · rw [hselect]
      refine ⟨_, _, rfl, ?_⟩
      rcases sendAll_mark_cases errand.templates errand.base errand.queue
          (selected (errand.snapshot.queues errand.queue)) with
        ⟨messages, hmessages, hprogram⟩ | ⟨item, cause, messages, -, -, hprogram⟩
      · exact hprogram ▸ .marking hmessages
      · exact hprogram ▸ .failing cause messages _
  | marking hmessages => exact Or.inl ⟨_, _, rfl, .ending hmessages _ now⟩
  | @ending messages hmessages counts time =>
    right
    simp only [advance]
    rcases Memory.commit_marking time errand.queue errand.snapshot shared with
      ⟨hfree, hcommit⟩ | ⟨-, cause, hcommit⟩
    · rw [hcommit]
      exact Or.inr ⟨messages, time, hmessages, hfree, by rw [held_messages]⟩
    · rw [hcommit]
      exact Or.inl rfl
  | failing cause messages tx => exact Or.inr (Or.inl rfl)

/-- What a producer has sent by the end of its program is messages. -/
theorem Errand.Stage.sent_eq {errand : Errand} {program : Program (List Envelope) (Nat × Nat)}
    {tx : Transaction} (h : errand.Stage program tx) {sent : List Envelope}
    (hend : (∃ counts, program = .done counts sent) ∨ ∃ cause, program = .fail cause sent) :
    ∃ messages : List Message, sent = messages.map .message := by
  cases h with
  | selecting =>
    rw [fill_eq] at hend
    rcases hend with ⟨counts, hend⟩ | ⟨cause, hend⟩ <;> cases hend
  | marking hmessages => rcases hend with ⟨counts, hend⟩ | ⟨cause, hend⟩ <;> cases hend
  | @ending messages hmessages =>
    rcases hend with ⟨counts, hend⟩ | ⟨cause, hend⟩ <;> cases hend
    exact ⟨messages, rfl⟩
  | failing cause messages =>
    rcases hend with ⟨counts, hend⟩ | ⟨cause, hend⟩ <;> cases hend
    exact ⟨messages, rfl⟩

/-! ## A drain that nobody disturbs -/

namespace Office

variable {office : Office} {i : Nat} {drain : Drain}

theorem step_advance {program : Program (List Envelope) (Nat × Nat)} {tx : Transaction}
    (h : office.drains[i]? = some drain) (hphase : drain.phase = .talking program tx)
    (now : Time.Instant) :
    office.step (.advance i now) =
      match advance now program tx office.shared with
      | (.delivering done messages, shared) =>
        { office.setPhase i drain (.delivering done messages) with
          shared, committed := office.committed ++ [i] }
      | (phase, shared) => { office.setPhase i drain phase with shared } := by
  simp only [step, h, hphase]

theorem setPhase_setPhase (office : Office) (i : Nat) (drain : Drain) (phase phase' : Phase) :
    (office.setPhase i drain phase).setPhase i { drain with phase } phase' =
      office.setPhase i drain phase' := by
  simp [setPhase]

theorem setPhase_same (h : office.drains[i]? = some drain) :
    office.setPhase i drain drain.phase = office := by
  obtain ⟨hlt, hget⟩ := List.getElem?_eq_some_iff.1 h
  have hset : office.drains.set i drain = office.drains := by
    rw [← hget]
    exact List.set_getElem_self hlt
  simp only [setPhase, hset]

theorem getElem?_setPhase (h : office.drains[i]? = some drain) (phase : Phase) :
    (office.setPhase i drain phase).drains[i]? = some { drain with phase } := by
  have hlt := (List.getElem?_eq_some_iff.1 h).1
  simp [setPhase, hlt]

/-- The last point of a program, at which a conversation has the result. -/
def last (result : Except Failure (Nat × Nat)) (sent : List Envelope) :
    Program (List Envelope) (Nat × Nat) :=
  match result with
  | .ok counts => .done counts sent
  | .error cause => .fail cause sent

/-- Going on with a program step by step comes to the end of the conversation. -/
theorem run_converse (now : Time.Instant) (program : Program (List Envelope) (Nat × Nat))
    (tx : Transaction) (h : office.drains[i]? = some drain)
    (hphase : drain.phase = .talking program tx) (hstage : drain.toErrand.Stage program tx) :
    let outcome := (Memory.warehouse now).converse program tx office.shared
    outcome.warehouse = office.shared ∧ drain.toErrand.Stage (last outcome.result outcome.state)
      outcome.transaction ∧
    ∃ n, office.run (List.replicate n (.advance i now)) = office.setPhase i drain
      (.talking (last outcome.result outcome.state) outcome.transaction) := by
  induction program generalizing office drain tx with
  | done counts sent =>
    refine ⟨rfl, hstage, 0, ?_⟩
    exact ((hphase ▸ setPhase_same h : office.setPhase i drain (.talking (.done counts sent) tx) =
      office)).symm
  | fail cause sent =>
    refine ⟨rfl, hstage, 0, ?_⟩
    exact ((hphase ▸ setPhase_same h : office.setPhase i drain (.talking (.fail cause sent) tx) =
      office)).symm
  | ask request sent next ih =>
    have hstep := step_advance h hphase now
    have hnext := hstage.advance_cases now office.shared
    have hask : ∀ (reply : Except Failure request.Reply) (tx' : Transaction),
        Memory.answer now request tx = (reply, tx') →
        (Memory.warehouse now).answer request tx office.shared = (reply, tx', office.shared) := by
      intro reply tx' hanswer
      simp [Memory.warehouse, hanswer]
    cases hanswer : Memory.answer now request tx with
    | mk reply tx' =>
      cases reply with
      | error cause =>
        have hadvance : advance now (.ask request sent next) tx office.shared =
            (.talking (.fail cause sent) tx', office.shared) := by simp [advance, hanswer]
        rw [hadvance] at hstep hnext
        have hfailing : drain.toErrand.Stage (.fail cause sent) tx' := by simpa using hnext
        simp only [Warehouse.converse, hask _ _ hanswer]
        exact ⟨trivial, hfailing, 1, hstep⟩
      | ok reply =>
        have hadvance : advance now (.ask request sent next) tx office.shared =
            (.talking (next reply) tx', office.shared) := by simp [advance, hanswer]
        rw [hadvance] at hstep hnext
        have hstage' : drain.toErrand.Stage (next reply) tx' := by simpa using hnext
        obtain ⟨hwarehouse, hlast, n, hrun⟩ :=
          ih reply tx' (getElem?_setPhase h (.talking (next reply) tx')) rfl hstage'
        simp only [Warehouse.converse, hask _ _ hanswer]
        refine ⟨hwarehouse, hlast, n + 1, ?_⟩
        rw [setPhase_setPhase] at hrun
        exact (congrArg (fun office => run office (List.replicate n _)) hstep).trans hrun

/-- A consumer hands over what it holds, as `deliverAll` does. -/
theorem run_deliverAll {μ : Type} (mailer : Mailer μ) (messages : List Message) (done count : Nat)
    (before : List Handed) (m : μ) (h : office.drains[i]? = some drain)
    (hphase : drain.phase = .delivering done messages) :
    ∃ (deliveries : List Delivery) (handed : List Handed),
      (deliverAll mailer.recording count messages (before, m)).2.1 = before ++ handed ∧
      (office.run (deliveries.map (.deliver i))).shared = office.shared ∧
      (office.run (deliveries.map (.deliver i))).handed =
        office.handed ++ handed.mapIdx fun k entry => ⟨i, done + k, entry.1⟩ := by
  induction messages generalizing office drain done count before m with
  | nil => exact ⟨[], [], by simp [deliverAll], rfl, by simp [run]⟩
  | cons message rest ih =>
    cases hdelivery : mailer.deliver message m with
    | mk delivery m =>
      have hstep : office.step (.deliver i delivery) =
          { office.setPhase i drain
              (if delivery = .died then .ended else .delivering (done + 1) rest) with
            handed := office.handed ++ [⟨i, done, message⟩] } := by
        simp only [step, h, hphase]
      have hnext : ∀ count', delivery ≠ .died →
          ∃ (deliveries : List Delivery) (handed : List Handed),
            (deliverAll mailer.recording count' rest (before ++ [(message, delivery)], m)).2.1 =
              before ++ handed ∧
            (office.run (deliveries.map (.deliver i))).shared = office.shared ∧
            (office.run (deliveries.map (.deliver i))).handed =
              office.handed ++ handed.mapIdx fun k entry => ⟨i, done + k, entry.1⟩ := by
        intro count' halive
        rw [if_neg halive] at hstep
        have hget : (office.step (.deliver i delivery)).drains[i]? =
            some { drain with phase := .delivering (done + 1) rest } := by
          rw [hstep]
          exact getElem?_setPhase h _
        obtain ⟨deliveries, handed, hlog, hshared, hhanded⟩ :=
          ih (done + 1) count' (before ++ [(message, delivery)]) m hget rfl
        refine ⟨delivery :: deliveries, (message, delivery) :: handed, ?_, ?_, ?_⟩
        · rw [hlog, List.append_assoc]
          rfl
        · rw [hstep] at hshared
          exact (congrArg (fun office => (run office _).shared) hstep).trans hshared
        · rw [hstep] at hhanded
          refine (congrArg (fun office => (run office _).handed) hstep).trans (hhanded.trans ?_)
          simp [List.mapIdx_cons, Nat.add_assoc, Nat.add_comm 1]
      cases delivery with
      | accepted =>
        simp only [deliverAll, Mailer.recording, hdelivery]
        exact hnext (count + 1) (by simp)
      | refused =>
        simp only [deliverAll, Mailer.recording, hdelivery]
        exact hnext count (by simp)
      | died =>
        refine ⟨[.died], [(message, .died)], ?_, ?_, ?_⟩
        · simp [deliverAll, Mailer.recording, hdelivery]
        · exact (congrArg Office.shared hstep).trans rfl
        · exact (congrArg Office.handed hstep).trans rfl

/-- The end of a transaction at the end of a conversation. -/
def ending (tx : Transaction) (shared : State) (result : Except Failure (Nat × Nat)) :
    Except Failure (Nat × Nat) × State :=
  match result with
  | .ok counts =>
    match Memory.commit tx shared with
    | (.ok (), shared) => (.ok counts, shared)
    | (.error cause, shared) => (.error cause, shared)
  | .error cause => (.error cause, shared)

/-- Ending the transaction and then handing over what is held comes to what the consumer does with
everything that was sent. -/
theorem run_ending {μ : Type} (now : Time.Instant) (mailer : Mailer μ) (m : μ)
    {result : Except Failure (Nat × Nat)} {sent : List Envelope} {tx : Transaction}
    (h : office.drains[i]? = some drain) (hphase : drain.phase = .talking (last result sent) tx)
    (hstage : drain.toErrand.Stage (last result sent) tx) :
    let ended := ending tx office.shared result
    ∃ deliveries : List Delivery,
      let after := office.run (.advance i now :: deliveries.map (.deliver i))
      after.shared = ended.2 ∧
      after.handed = office.handed ++
        (consume mailer.recording [] (envelopes ended.1 sent) ([], m)).2.1.mapIdx
          fun k entry => ⟨i, k, entry.1⟩ := by
  have hstep := step_advance h hphase now
  cases result with
  | error cause =>
    obtain ⟨messages, rfl⟩ := hstage.sent_eq (Or.inr ⟨cause, rfl⟩)
    refine ⟨[], (congrArg Office.shared hstep).trans rfl,
      (congrArg Office.handed hstep).trans ?_⟩
    simp [ending, envelopes, consume_messages, last, advance, setPhase]
  | ok counts =>
    obtain ⟨messages, rfl⟩ := hstage.sent_eq (Or.inl ⟨counts, rfl⟩)
    simp only [last, advance, held_messages] at hstep
    simp only [ending]
    rcases hcommit : Memory.commit tx office.shared with ⟨_ | ⟨⟩, shared⟩
    · rw [hcommit] at hstep
      refine ⟨[], (congrArg Office.shared hstep).trans rfl,
        (congrArg Office.handed hstep).trans ?_⟩
      simp [envelopes, consume_messages, setPhase]
    · rw [hcommit] at hstep
      have hget : (office.step (.advance i now)).drains[i]? =
          some { drain with phase := .delivering 0 messages } := by
        rw [hstep]
        exact getElem?_setPhase h _
      obtain ⟨deliveries, handed, hlog, hshared, hhanded⟩ :=
        run_deliverAll mailer messages 0 0 [] m hget rfl
      refine ⟨deliveries, hshared.trans (congrArg Office.shared hstep), ?_⟩
      simp only [envelopes, consume_commit, hlog, List.nil_append]
      refine hhanded.trans ?_
      rw [hstep]
      simp [setPhase]

/-- **A drain by itself**: what `drain` does is a run of steps of one new drain, with the same shared
state and the same messages in the hands of the mailer. -/
theorem drain_eq_run {μ : Type} (office : Office) (now : Time.Instant) (mailer : Mailer μ)
    (templates : Templates) (base : String) (queue : Queue) (m : μ) :
    let outcome := Mail.drain (Memory.warehouse now) mailer.recording templates base queue
      office.shared ([], m)
    let i := office.drains.length
    ∃ (advances : Nat) (deliveries : List Delivery),
      let after := office.run (.begin queue templates base ::
        List.replicate advances (.advance i now) ++ deliveries.map (.deliver i))
      after.shared = outcome.2.1 ∧
      after.handed = office.handed ++ outcome.2.2.1.mapIdx fun k entry => ⟨i, k, entry.1⟩ := by
  intro outcome i
  have hbegin : (office.step (.begin queue templates base)).drains[i]? =
      some (Drain.start queue templates base office.shared) := by
    simp [step, i]
  have hsteps := run_converse now _ _ hbegin rfl .selecting
  rw [show (office.step (.begin queue templates base)).shared = office.shared from rfl] at hsteps
  rcases hconversation : (Memory.warehouse now).converse (fill templates base queue [])
    (Memory.begin office.shared) office.shared with ⟨result, sent, tx, w⟩
  simp only [hconversation] at hsteps
  obtain ⟨rfl, hstage, n, hrun⟩ := hsteps
  have hget := getElem?_setPhase hbegin (.talking (last result sent) tx)
  rw [← hrun] at hget
  obtain ⟨deliveries, hshared, hhanded⟩ := run_ending now mailer m hget rfl hstage
  have htransact : (Memory.warehouse now).transact .snapshot (fill templates base queue) []
      office.shared = ((ending tx office.shared result).1, sent,
        (ending tx office.shared result).2) := by
    have hstart : (Memory.warehouse now).begin .snapshot office.shared =
        (.ok (Memory.begin office.shared), office.shared) := rfl
    simp only [Warehouse.transact, hstart, hconversation]
    cases result with
    | error cause => rfl
    | ok counts =>
      have hcommit : (Memory.warehouse now).commit = Memory.commit := rfl
      simp only [ending, hcommit]
      rcases Memory.commit tx office.shared with ⟨_ | ⟨⟩, shared⟩ <;> rfl
  have houtcome : outcome.2 = _ := drain_snd templates base (Memory.warehouse now)
    mailer.recording queue office.shared ([], m)
  rw [htransact] at houtcome
  refine ⟨n + 1, deliveries, ?_⟩
  have hafter : office.run (.begin queue templates base ::
      List.replicate (n + 1) (.advance i now) ++ deliveries.map (.deliver i)) =
        ((office.step (.begin queue templates base)).run
          (List.replicate n (.advance i now))).run
            (.advance i now :: deliveries.map (.deliver i)) := by
    rw [List.replicate_succ', ← List.cons_append, List.append_assoc, run_append]
    rfl
  have hmiddle : ((office.step (.begin queue templates base)).run
      (List.replicate n (.advance i now))).shared = office.shared := by
    rw [hrun]
    rfl
  have hbefore : ((office.step (.begin queue templates base)).run
      (List.replicate n (.advance i now))).handed = office.handed := by
    rw [hrun]
    rfl
  simp only [hafter, houtcome]
  rw [hshared, hhanded, hmiddle, hbefore]
  exact ⟨rfl, rfl⟩

end Office

end Registrar.Mail
