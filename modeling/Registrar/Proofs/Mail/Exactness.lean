import Registrar.Proofs.Mail.Envelopes
import Registrar.Proofs.Memory.Pending
/-!
# One drain among others

A drain takes effect as a whole or not at all, whatever others do to the warehouse between its begin
and its end (`Move`, `disturbed`). Its transaction works on the snapshot that it took, so what
others do shows only at the commit: it fails if one of the rows that it marked is not unseen any
more, and by `commit_marking` it marks exactly these rows otherwise. `drain_cases` lists the four
ways in which a drain can end.

Main statement: `drain_exact`.
-/
namespace Registrar.Memory

/-! ## Others -/

/-- What somebody else does to the shared state: a row is added to a queue, or a transaction
commits, whatever it did. -/
inductive Move
  | enqueue (queue : Mail.Queue) (row : QueueRow)
  | commit (tx : Transaction)

def Move.apply : Move → State → State
  | .enqueue queue row, state => state.enqueue queue row
  | .commit tx, state => (Memory.commit tx state).2

/-- The state after some moves, the first of which is made first. -/
def State.after (moves : List Move) (state : State) : State :=
  moves.foldl (fun state move => move.apply state) state

theorem State.after_append (before later : List Move) (state : State) :
    state.after (before ++ later) = (state.after before).after later :=
  List.foldl_append

/-- Others make the moves that are next; what is left is what they do later. -/
def disturb : State × List (List Move) → State × List (List Move)
  | (state, []) => (state, [])
  | (state, moves :: later) => (state.after moves, later)

/-- The warehouse at a time while others are at work: they make a list of moves before each request
and before the end of the transaction. -/
def disturbed (now : Time.Instant) : Warehouse (State × List (List Move)) Transaction where
  begin _ w := (.ok (begin w.1), w)
  answer request tx w :=
    let (reply, tx) := answer now request tx
    (reply, tx, disturb w)
  commit tx w :=
    let (state, later) := disturb w
    let (result, state) := commit tx state
    (result, (state, later))
  rollback tx w :=
    let (state, later) := disturb w
    let (result, state) := rollback tx state
    (result, (state, later))

theorem answer_disturbed (now : Time.Instant) (request : Warehouse.Request) (tx : Transaction)
    (w : State × List (List Move)) :
    (disturbed now).answer request tx w =
      ((answer now request tx).1, (answer now request tx).2, disturb w) := rfl

theorem commit_disturbed (now : Time.Instant) (tx : Transaction) (w : State × List (List Move)) :
    (disturbed now).commit tx w =
      ((commit tx (disturb w).1).1, ((commit tx (disturb w).1).2, (disturb w).2)) := rfl

theorem rollback_disturbed (now : Time.Instant) (tx : Transaction) (w : State × List (List Move)) :
    (disturbed now).rollback tx w = (.ok (), disturb w) := rfl

/-- The state after the first `n` lists of moves. -/
def State.afterFirst (n : Nat) (schedule : List (List Move)) (state : State) : State :=
  state.after (schedule.take n).flatten

theorem disturb_eq (n : Nat) (schedule : List (List Move)) (state : State) :
    disturb (state.afterFirst n schedule, schedule.drop n) =
      (state.afterFirst (n + 1) schedule, schedule.drop (n + 1)) := by
  cases hnext : schedule.drop n with
  | nil =>
    have hlen : schedule.length ≤ n := List.drop_eq_nil_iff.1 hnext
    rw [State.afterFirst, State.afterFirst, List.take_of_length_le hlen,
      List.take_of_length_le (by omega), List.drop_of_length_le (by omega)]
    rfl
  | cons moves later =>
    have hlt : n < schedule.length := by
      rw [← Nat.not_le, ← List.drop_eq_nil_iff, hnext]
      simp
    rw [List.drop_eq_getElem_cons hlt, List.cons.injEq] at hnext
    obtain ⟨rfl, rfl⟩ := hnext
    simp only [disturb, State.afterFirst, List.take_succ_eq_append_getElem hlt, List.flatten_append,
      State.after_append, List.flatten_singleton]

/-! ## What others can do to a row -/

theorem kept_after (moves : List Move) (state : State) : Kept state (state.after moves) := by
  induction moves generalizing state with
  | nil => exact Kept.refl state
  | cons move rest ih =>
    have hmove : Kept state (move.apply state) := by
      cases move with
      | enqueue queue row => exact kept_enqueue state queue row
      | commit tx => exact kept_commit tx state
    exact hmove.trans (ih _)

/-- One of the moves is the commit of a transaction that marks the row at a position. -/
def MarkedBy (moves : List Move) (state : State) (queue : Mail.Queue) (position : Nat) : Prop :=
  ∃ before tx later, moves = before ++ .commit tx :: later ∧
    UnseenAt ((state.after before).queues queue) position ∧
    ¬UnseenAt ((commit tx (state.after before)).2.queues queue) position

variable {queue : Mail.Queue} {position : Nat} {state : State}

/-- A row that was unseen is the same row as long as it is unseen. -/
theorem getElem?_after_of_unseen {moves : List Move} {row : QueueRow}
    (hrow : (state.queues queue)[position]? = some row) (hunseen : row.seenAt = none)
    (hlater : UnseenAt ((state.after moves).queues queue) position) :
    ((state.after moves).queues queue)[position]? = some row := by
  obtain ⟨later, hlater, hunseen'⟩ := hlater
  obtain ⟨later', hlater', hitem, -⟩ := kept_after moves state queue position row hrow
  obtain rfl : later = later' := by simpa [hlater] using hlater'
  obtain ⟨item, seenAt⟩ := row
  obtain ⟨item', seenAt'⟩ := later
  simp_all

/-- A row that was unseen has been marked since if and only if a commit marked it. -/
theorem markedBy_iff (moves : List Move) (h : UnseenAt (state.queues queue) position) :
    MarkedBy moves state queue position ↔
      ¬UnseenAt ((state.after moves).queues queue) position := by
  constructor
  · rintro ⟨before, tx, later, rfl, ⟨row, hrow, -⟩, hseen⟩ hlater
    obtain ⟨marked, hmarked, -⟩ := kept_commit tx (state.after before) queue position row hrow
    have hkept : Kept (commit tx (state.after before)).2
        ((state.after before).after (.commit tx :: later)) := kept_after later _
    rw [State.after_append] at hlater
    exact hseen ⟨marked, hmarked, hkept.unseen_of_unseen hmarked hlater⟩
  · intro hseen
    induction moves generalizing state with
    | nil => exact absurd h hseen
    | cons move rest ih =>
      by_cases hmove : UnseenAt ((move.apply state).queues queue) position
      · obtain ⟨before, tx, later, rfl, hmarked⟩ := ih hmove hseen
        exact ⟨move :: before, tx, later, rfl, hmarked⟩
      · cases move with
        | enqueue other row =>
          obtain ⟨old, hold, hunseen⟩ := h
          exact absurd ⟨old, getElem?_enqueue hold other row, hunseen⟩ hmove
        | commit tx => exact ⟨[], tx, rest, rfl, h, hmove⟩

end Registrar.Memory

namespace Registrar.Mail

open Memory (State Move QueueRow Transaction disturbed marking markedSince selected pending UnseenAt)

/-! ## The ends of a drain -/

section

variable (now : Time.Instant) (templates : Templates) (base : String) (queue : Queue) (w : State)
  (schedule : List (List Move))

/-- A row that is to be told has no address, or there is no message of it. -/
def Unsendable (rows : List QueueRow) : Prop :=
  (∃ row ∈ pending rows, row.item.recipient = "") ∨
    ∃ row ∈ pending rows, ∃ cause, row.item.message templates base = .error cause

theorem unsendable_iff (rows : List QueueRow) :
    Unsendable templates base rows ↔
      (∃ item ∈ selected rows, item.recipient = "") ∨
        ∃ item ∈ selected rows, ∃ cause, item.message templates base = .error cause := by
  rw [Unsendable, Memory.exists_selected_iff, Memory.exists_selected_iff]

/-- The messages of what is selected are those of the pending rows. -/
theorem map_message_selected (rows : List QueueRow) :
    (selected rows).map (Item.message templates base) =
      (pending rows).map fun row => row.item.message templates base := by
  rw [Memory.selected_eq_pending, List.map_map]
  rfl

variable {templates base} in
theorem not_unsendable {rows : List QueueRow} {messages : List Message}
    (hall : ∀ item ∈ selected rows, item.recipient ≠ "")
    (hmessages : (selected rows).map (Item.message templates base) = messages.map .ok) :
    ¬Unsendable templates base rows := by
  rw [unsendable_iff]
  rintro (⟨item, hmem, hnobody⟩ | ⟨item, hmem, cause, herror⟩)
  · exact hall item hmem hnobody
  · have hitem := List.mem_map_of_mem (f := Item.message templates base) hmem
    rw [hmessages, herror] at hitem
    simp at hitem

/-- What a producer comes to before its transaction ends. -/
theorem converse_fill_cases :
    let outcome := (disturbed now).converse (fill templates base queue []) (Memory.begin w)
      (w, schedule)
    (Unsendable templates base (w.queues queue) ∧
      ∃ cause, ∃ messages : List Message, outcome = ⟨.error cause, messages.map .message,
        Memory.begin w, (w.afterFirst 1 schedule, schedule.drop 1)⟩) ∨
    (¬Unsendable templates base (w.queues queue) ∧
      ∃ messages : List Message,
        (pending (w.queues queue)).map (fun row => row.item.message templates base) =
          messages.map .ok ∧
        outcome = ⟨.ok (messages.length, w.unseenCount queue), messages.map .message,
          marking now queue w, (w.afterFirst 2 schedule, schedule.drop 2)⟩) := by
  have hfirst : Memory.disturb (w, schedule) = (w.afterFirst 1 schedule, schedule.drop 1) :=
    Memory.disturb_eq 0 schedule w
  have hsecond : Memory.disturb (w.afterFirst 1 schedule, schedule.drop 1) =
      (w.afterFirst 2 schedule, schedule.drop 2) := Memory.disturb_eq 1 schedule w
  have hunseen : Memory.answer now (.unseen queue) (Memory.begin w) =
      (Memory.unseen queue (Memory.begin w), Memory.begin w) := rfl
  simp only [fill_eq, Warehouse.converse, Memory.answer_disturbed, hfirst, hunseen,
    ← map_message_selected]
  rcases Memory.unseen_cases queue (Memory.begin w) with ⟨hnobody, cause, hfail⟩ | ⟨hall, hselect⟩
  · rw [hfail]
    exact Or.inl ⟨(unsendable_iff ..).2 (Or.inl hnobody), cause, [], rfl⟩
  · rw [hselect]
    have hconverse : ∀ {program program' : Program (List Envelope) (Nat × Nat)},
        program = program' → (disturbed now).converse program (Memory.begin w)
          (w.afterFirst 1 schedule, schedule.drop 1) = (disturbed now).converse program'
            (Memory.begin w) (w.afterFirst 1 schedule, schedule.drop 1) := fun h => by rw [h]
    rcases sendAll_mark_cases templates base queue (selected (w.queues queue)) with
      ⟨messages, hmessages, hprogram⟩ | ⟨item, cause, messages, hmem, herror, hprogram⟩
    · have hmark : Memory.answer now (.markSeen queue) (Memory.begin w) =
          (.ok (w.unseenCount queue), marking now queue w) := by
        have hcount := Memory.length_unseenPositions 0 (w.queues queue)
        simp only [Memory.answer, State.unseenCount, ← hcount]
        rfl
      refine Or.inr ⟨not_unsendable hall hmessages, messages, hmessages, ?_⟩
      refine (hconverse hprogram).trans ?_
      simp only [mark, Warehouse.converse, Memory.answer_disturbed, hmark, hsecond]
    · exact Or.inl ⟨(unsendable_iff ..).2 (Or.inr ⟨item, hmem, cause, herror⟩), cause, messages,
        hconverse hprogram⟩

variable {μ : Type} {mailer : Mailer μ} (m : μ)

/-- **The ends of a drain**: something cannot be sent, or somebody else marked one of the rows, or
everything is marked and handed over. -/
theorem drain_cases (halive : ∀ message m, (mailer.deliver message m).1 ≠ .died) :
    let last := w.afterFirst 3 schedule
    let outcome := drain (disturbed now) mailer.recording templates base queue (w, schedule) ([], m)
    (Unsendable templates base (w.queues queue) ∧
      ∃ cause, outcome = (.error cause, (w.afterFirst 2 schedule, schedule.drop 2), ([], m))) ∨
    ((∃ position, UnseenAt (w.queues queue) position ∧ ¬UnseenAt (last.queues queue) position) ∧
      ∃ cause, outcome = (.error cause, (last, schedule.drop 3), ([], m))) ∨
    (¬Unsendable templates base (w.queues queue) ∧
      (∀ position, UnseenAt (w.queues queue) position → UnseenAt (last.queues queue) position) ∧
      ∃ handed m',
        (pending (w.queues queue)).map (fun row => row.item.message templates base) =
          handed.map (fun entry => .ok entry.1) ∧
        outcome = (.ok ⟨queue, handed.length, w.unseenCount queue, accepted handed⟩,
          (markedSince now queue w last, schedule.drop 3), (handed, m'))) := by
  have hend : Memory.disturb (w.afterFirst 1 schedule, schedule.drop 1) =
      (w.afterFirst 2 schedule, schedule.drop 2) := Memory.disturb_eq 1 schedule w
  have hlast : Memory.disturb (w.afterFirst 2 schedule, schedule.drop 2) =
      (w.afterFirst 3 schedule, schedule.drop 3) := Memory.disturb_eq 2 schedule w
  have hbegin : (disturbed now).begin .snapshot (w, schedule) =
      (.ok (Memory.begin w), (w, schedule)) := rfl
  simp only [drain, Warehouse.transact, hbegin]
  rcases converse_fill_cases now templates base queue w schedule with
    ⟨hunsendable, cause, messages, houtcome⟩ | ⟨hsendable, messages, hmessages, houtcome⟩
  · refine Or.inl ⟨hunsendable, cause, ?_⟩
    simp only [houtcome, Memory.rollback_disturbed, hend, envelopes, consume_messages]
  · refine Or.inr ?_
    simp only [houtcome, Memory.commit_disturbed, hlast]
    have hends := Memory.commit_marking now queue w (w.afterFirst 3 schedule)
    simp only [Memory.isUnseenAt_eq_true_iff, Memory.isUnseenAt_eq_false_iff] at hends
    rcases hends with
      ⟨hfree, hcommit⟩ | ⟨hconflict, cause, hcommit⟩
    · refine Or.inr ⟨hsendable, hfree, ?_⟩
      obtain ⟨handed, m', hhanded, hdeliver⟩ := deliverAll_recording halive messages 0 [] m
      refine ⟨handed, m', ?_, ?_⟩
      · rw [hmessages, ← hhanded, List.map_map]
        rfl
      · simp only [hcommit, envelopes, consume_commit, hdeliver]
        rw [← hhanded]
        simp
    · refine Or.inl ⟨hconflict, cause, ?_⟩
      simp only [hcommit, envelopes, consume_messages]

/-- A drain takes effect as a whole or not at all. -/
structure Exact (mailer : Mailer μ) : Prop where
  /-- It is what the mailer does that records nothing. -/
  plain :
    let outcome := drain (disturbed now) mailer.recording templates base queue (w, schedule) ([], m)
    drain (disturbed now) mailer templates base queue (w, schedule) m =
      (outcome.1, outcome.2.1, outcome.2.2.2)
  /-- If it succeeds, the rows that were unseen at its begin are marked in the state that others have
  left by its end, and one message of each pending row has been handed over, in the order of the
  queue. -/
  success : ∀ report final later handed m',
    drain (disturbed now) mailer.recording templates base queue (w, schedule) ([], m) =
        (.ok report, (final, later), (handed, m')) →
      Memory.Marked now queue w (w.afterFirst 3 schedule) final ∧
      (pending (w.queues queue)).map (fun row => row.item.message templates base) =
        handed.map (fun entry => .ok entry.1) ∧
      report = {
        queue
        produced := handed.length
        marked := (w.queues queue).countP fun row => row.seenAt = none
        delivered := handed.countP fun entry => entry.2 = .accepted }
  /-- If it fails, the mailer is not called, and the state is what others have left by some time. -/
  failure : ∀ cause final later handed m',
    drain (disturbed now) mailer.recording templates base queue (w, schedule) ([], m) =
        (.error cause, (final, later), (handed, m')) →
      handed = [] ∧ m' = m ∧ ∃ n, final = w.afterFirst n schedule
  /-- It fails if and only if a pending row has no address or no message, or the commit of somebody
  else marked a row that the drain marked. -/
  fails_iff :
    (∃ cause, (drain (disturbed now) mailer.recording templates base queue (w, schedule)
        ([], m)).1 = .error cause) ↔
      (∃ row ∈ pending (w.queues queue), row.item.recipient = "") ∨
      (∃ row ∈ pending (w.queues queue), ∃ cause,
        row.item.message templates base = .error cause) ∨
      ∃ position, UnseenAt (w.queues queue) position ∧
        Memory.MarkedBy (schedule.take 3).flatten w queue position

/-- **Exactness**: a drain with a mailer that does not break down marks and hands over exactly what
was unseen at its begin, or nothing. -/
theorem drain_exact (halive : ∀ message m, (mailer.deliver message m).1 ≠ .died) :
    Exact now templates base queue w schedule m mailer := by
  have hcases := drain_cases now templates base queue w schedule m halive
  simp only at hcases
  refine ⟨?plain, ?success, ?failure, ?fails_iff⟩
  case plain =>
    exact (drain_recording templates base (disturbed now) mailer queue (w, schedule) [] m).symm
  case success =>
    intro report final later handed m' hdrain
    rw [hdrain] at hcases
    rcases hcases with ⟨-, cause, hfail⟩ | ⟨-, cause, hfail⟩ | ⟨-, hfree, sent, m'', hsent, hsuccess⟩
    · cases hfail
    · cases hfail
    · cases hsuccess
      refine ⟨Memory.marked_markedSince now fun position row hrow hunseen => ?_, hsent, ?_⟩
      · exact Memory.getElem?_after_of_unseen hrow hunseen (hfree position ⟨row, hrow, hunseen⟩)
      · rw [State.unseenCount_eq, accepted, ← List.countP_eq_length_filter]
  case failure =>
    intro cause final later handed m' hdrain
    rw [hdrain] at hcases
    rcases hcases with ⟨-, cause, hfail⟩ | ⟨-, cause, hfail⟩ | ⟨-, -, sent, m'', -, hsuccess⟩
    · cases hfail
      exact ⟨rfl, rfl, 2, rfl⟩
    · cases hfail
      exact ⟨rfl, rfl, 3, rfl⟩
    · cases hsuccess
  case fails_iff =>
    rw [← or_assoc]
    rcases hcases with ⟨hunsendable, cause, hfail⟩ | ⟨hconflict, cause, hfail⟩ |
      ⟨hsendable, hfree, sent, m', -, hsuccess⟩
    · exact ⟨fun _ => Or.inl hunsendable, fun _ => ⟨cause, by rw [hfail]⟩⟩
    · refine ⟨fun _ => Or.inr ?_, fun _ => ⟨cause, by rw [hfail]⟩⟩
      obtain ⟨position, hunseen, hseen⟩ := hconflict
      exact ⟨position, hunseen, (Memory.markedBy_iff _ hunseen).2 hseen⟩
    · rw [hsuccess]
      refine ⟨?_, ?_⟩
      · rintro ⟨cause, hfail⟩
        cases hfail
      rintro (hunsendable | ⟨position, hunseen, hmarked⟩)
      · exact absurd hunsendable hsendable
      · exact absurd (hfree position hunseen) ((Memory.markedBy_iff _ hunseen).1 hmarked)

end

/-- A user has subscribed to two sections of a course and been told of one already; another user has
subscribed to a section of a second course, and subscribes to one more while the queue is drained.
One message goes out, and two rows are marked. If somebody else has marked these rows, nothing
happens. -/
theorem drain_exact_of_subscriptions :
    let counting : Mailer Nat := ⟨fun _ count => (.accepted, count + 1)⟩
    let note : Template := ⟨"note", [.literal "Hi ".toList, .field "UserName"]⟩
    let ada (code : String) : Item := .subscribed ⟨1, 10, "ada@uwaterloo.ca", "Ada", code⟩
    let bob (code : String) : Item := .subscribed ⟨2, 11, "bob@uwaterloo.ca", "Bob <b>", code⟩
    let w : State := { queues := fun queue => if queue = .sectionSubscribed then
      [⟨ada "CS135", some ⟨1, 0⟩⟩, ⟨ada "cs135", none⟩, ⟨bob "cs246", none⟩] else [] }
    let now : Time.Instant := ⟨2, 0⟩
    let added : List (List Move) := [[], [.enqueue .sectionSubscribed ⟨bob "cs136", none⟩]]
    let marked : List (List Move) := [[.commit (marking ⟨1, 5⟩ .sectionSubscribed w)]]
    let outcome (schedule : List (List Move)) :=
      drain (disturbed now) counting.recording ⟨note, note, note, note⟩ "" .sectionSubscribed
        (w, schedule) ([], 0)
    (∀ message count, (counting.deliver message count).1 ≠ .died) ∧
    (outcome added).1.toOption = some ⟨.sectionSubscribed, 1, 2, 1⟩ ∧
    (outcome added).2.2 = ([(⟨"bob@uwaterloo.ca", "You’re all set to receive notifications for CS246",
      "Hi Bob &lt;b&gt;"⟩, .accepted)], 1) ∧
    (outcome added).2.1.1.queues .sectionSubscribed = [⟨ada "CS135", some ⟨1, 0⟩⟩,
      ⟨ada "cs135", some now⟩, ⟨bob "cs246", some now⟩, ⟨bob "cs136", none⟩] ∧
    (outcome marked).1.toOption = none ∧ (outcome marked).2.2 = ([], 0) ∧
    Exact now ⟨note, note, note, note⟩ "" .sectionSubscribed w added 0 counting ∧
    Exact now ⟨note, note, note, note⟩ "" .sectionSubscribed w marked 0 counting := by
  intro counting note ada bob w now added marked outcome
  have halive : ∀ message count, (counting.deliver message count).1 ≠ .died := by
    intro message count hdied
    cases hdied
  exact ⟨halive, by decide +kernel, by decide +kernel, by decide +kernel, by decide +kernel,
    by decide +kernel, drain_exact _ _ _ _ _ added _ halive, drain_exact _ _ _ _ _ marked _ halive⟩

end Registrar.Mail
