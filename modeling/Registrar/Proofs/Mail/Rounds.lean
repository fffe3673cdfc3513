import Mathlib.Data.List.Induction
import Registrar.Proofs.Mail.Exactness
import Registrar.Proofs.Memory.Solitude
import Registrar.Proofs.Warehouse.Embedding
/-!
# Rounds

A round drains queues one after another and ends at the first failure, with nobody else at work. What
a drain does to a queue does not depend on the drains of other queues, and a queue that has been
drained has nothing left to drain. So a round serves each of its queues as the queue was found, once
(`Drained`), and one that fails is the round of the queues before the failure and nothing else.

Main statement: `orderly_round`.
-/
namespace Registrar.Memory

/-! ## A clock -/

/-- The warehouse with a clock that goes on with every transaction. -/
def ticking (clock : Nat → Time.Instant) : Warehouse (Nat × State) Transaction where
  begin _ w := (.ok (begin w.2), (w.1 + 1, w.2))
  answer request tx w :=
    let (reply, tx) := answer (clock w.1) request tx
    (reply, tx, w)
  commit tx w :=
    let (result, state) := commit tx w.2
    (result, (w.1, state))
  rollback tx w :=
    let (result, state) := rollback tx w.2
    (result, (w.1, state))

theorem embeds_ticking (clock : Nat → Time.Instant) (n : Nat) :
    (warehouse (clock (n + 1))).Embeds (ticking clock) (fun w => (n, w)) (fun w => (n + 1, w)) where
  begin _ _ := rfl
  answer _ _ _ := rfl
  commit _ _ := rfl
  rollback _ _ := rfl

/-- Others who do nothing disturb nobody. -/
theorem embeds_disturbed (now : Time.Instant) :
    (warehouse now).Embeds (disturbed now) (fun w => (w, [])) (fun w => (w, [])) where
  begin _ _ := rfl
  answer _ _ _ := rfl
  commit _ _ := rfl
  rollback _ _ := rfl

/-! ## A marked queue -/

/-- The state in which every row of a queue is marked. -/
def State.markQueue (now : Time.Instant) (queue : Mail.Queue) (state : State) : State :=
  state.setQueue queue ((state.queues queue).map (QueueRow.mark now))

theorem State.queues_markQueue (now : Time.Instant) (queue other : Mail.Queue) (state : State) :
    (state.markQueue now queue).queues other =
      if other = queue then (state.queues queue).map (QueueRow.mark now) else state.queues other :=
  rfl

theorem markedSince_self (now : Time.Instant) (queue : Mail.Queue) (state : State) :
    markedSince now queue state state = state.markQueue now queue := by
  refine congrArg (state.setQueue queue) (List.ext_getElem? fun position => ?_)
  rw [List.getElem?_mapIdx, List.getElem?_map]
  cases hrow : (state.queues queue)[position]? with
  | none => rfl
  | some row =>
    have hunseen : isUnseenAt (state.queues queue) position = !row.seen := by
      simp [isUnseenAt, hrow]
    rw [Option.map_some, Option.map_some, hunseen, QueueRow.mark]
    cases row.seen <;> rfl

variable {rows : List QueueRow}

theorem map_mark_of_seen (now : Time.Instant) (h : ∀ row ∈ rows, row.seenAt ≠ none) :
    rows.map (QueueRow.mark now) = rows := by
  have hmark : ∀ row ∈ rows, row.mark now = row := fun row hrow => by
    obtain ⟨time, htime⟩ := Option.ne_none_iff_exists'.1 (h row hrow)
    rw [QueueRow.mark_eq, htime, Option.getD_some, ← htime]
  rw [List.map_congr_left hmark, List.map_id']

theorem State.unseenCount_of_seen {state : State} {queue : Mail.Queue}
    (h : ∀ row ∈ state.queues queue, row.seenAt ≠ none) : state.unseenCount queue = 0 := by
  rw [State.unseenCount_eq, List.countP_eq_zero]
  exact fun row hrow hunseen => h row hrow (decide_eq_true_iff.1 hunseen)

theorem State.markQueue_of_seen (now : Time.Instant) {state : State} {queue : Mail.Queue}
    (h : ∀ row ∈ state.queues queue, row.seenAt ≠ none) : state.markQueue now queue = state := by
  have hqueues : (state.markQueue now queue).queues = state.queues := by
    funext other
    rw [State.queues_markQueue, map_mark_of_seen now h]
    split
    · rename_i hsame
      rw [hsame]
    · rfl
  calc state.markQueue now queue
      = { state with queues := (state.markQueue now queue).queues } := rfl
    _ = state := by rw [hqueues]

end Registrar.Memory

namespace Registrar.Mail

open Memory (State QueueRow ticking selected pending)

/-! ## A drain with nobody else at work -/

section

variable {ω ω' τ μ : Type} (templates : Templates) (base : String) (queue : Queue)

theorem drain_of_embeds {inner : Warehouse ω τ} {outer : Warehouse ω' τ} {before after : ω → ω'}
    (h : inner.Embeds outer before after) (mailer : Mailer μ) (w : ω) (m : μ) :
    drain outer mailer templates base queue (before w) m =
      let (result, w, m) := drain inner mailer templates base queue w m
      (result, after w, m) := by
  simp only [drain, h.transact]
  rcases inner.transact .snapshot (fill templates base queue) [] w with ⟨result, sent, w⟩
  rcases consume mailer [] (envelopes result sent) m with ⟨_ | delivered, m⟩
  · rfl
  · cases result <;> rfl

/-- In a queue whose rows have all been seen nothing is selected, and nothing is marked. -/
theorem perform_fill_of_seen (now : Time.Instant) {w : State}
    (h : ∀ row ∈ w.queues queue, row.seenAt ≠ none) :
    Memory.perform now (fill templates base queue) [] (Memory.begin w) =
      (.ok (0, 0), [], Memory.marking now queue w) := by
  have hselected : selected (w.queues queue) = [] := by
    rw [Memory.selected_eq_pending, Memory.pending_of_seen h, List.map_nil]
  have hselect : Memory.answer now (.unseen queue) (Memory.begin w) = (.ok [], Memory.begin w) := by
    rcases Memory.unseen_cases queue (Memory.begin w) with ⟨⟨item, hitem, -⟩, -⟩ | ⟨-, hall⟩
    · rw [show (Memory.begin w).work = w from rfl, hselected] at hitem
      cases hitem
    · rw [show (Memory.begin w).work = w from rfl, hselected] at hall
      exact congrArg (·, Memory.begin w) hall
  have hmark : Memory.answer now (.markSeen queue) (Memory.begin w) =
      (.ok 0, Memory.marking now queue w) := by
    have hcount := Memory.length_unseenPositions 0 (w.queues queue)
    rw [← State.unseenCount, Memory.State.unseenCount_of_seen h] at hcount
    exact congrArg (Except.ok ·, Memory.marking now queue w) hcount
  simp only [Memory.perform, fill_eq, Memory.hold, hselect]
  simp only [sendAll, pure, Program.bind, mark, Memory.hold, hmark, List.length_nil]

/-- A drain of such a queue does nothing, whatever the mailer is. -/
theorem drain_of_seen (mailer : Mailer μ) (clock : Nat → Time.Instant) (n : Nat) {w : State}
    (m : μ) (h : ∀ row ∈ w.queues queue, row.seenAt ≠ none) :
    drain (ticking clock) mailer templates base queue (n, w) m =
      (.ok ⟨queue, 0, 0, 0⟩, (n + 1, w), m) := by
  rw [drain_of_embeds templates base queue (Memory.embeds_ticking clock n), drain,
    Memory.transact_eq, perform_fill_of_seen templates base queue _ h]
  simp only [Memory.publish_marking, Memory.markedSince_self, Memory.State.markQueue_of_seen _ h]
  rfl

variable {mailer : Mailer μ} (clock : Nat → Time.Instant) (n : Nat) (w : State)
  (before : List Handed) (m : μ)

/-- **A drain alone** fails and leaves everything as it was, if something cannot be sent. If not, it
marks the queue and hands over a message of every row that is to be told. -/
theorem drain_alone (halive : ∀ message m, (mailer.deliver message m).1 ≠ .died) :
    let outcome := drain (ticking clock) mailer.recording templates base queue (n, w) (before, m)
    (Unsendable templates base (w.queues queue) ∧
      ∃ cause, outcome = (.error cause, (n + 1, w), (before, m))) ∨
    (¬Unsendable templates base (w.queues queue) ∧ ∃ handed m',
      (pending (w.queues queue)).map (fun row => row.item.message templates base) =
        handed.map (fun entry => .ok entry.1) ∧
      outcome = (.ok ⟨queue, handed.length, w.unseenCount queue, accepted handed⟩,
        (n + 1, w.markQueue (clock (n + 1)) queue), (before ++ handed, m'))) := by
  -- It is a drain at one time, among others who do nothing.
  have hcases := drain_cases (clock (n + 1)) templates base queue w [] m halive
  have hdisturbed := drain_of_embeds templates base queue (Memory.embeds_disturbed (clock (n + 1)))
    mailer.recording w ([], m)
  have hticking := drain_of_embeds templates base queue (Memory.embeds_ticking clock n)
    mailer.recording w (before, m)
  rw [drain_recorded templates base (Memory.warehouse _)] at hticking
  simp only at hcases hdisturbed hticking ⊢
  rw [hticking]
  rw [hdisturbed] at hcases
  generalize drain (Memory.warehouse (clock (n + 1))) mailer.recording templates base queue w
    ([], m) = plain at hcases
  obtain ⟨result, w', handed, m'⟩ := plain
  rcases hcases with ⟨hunsendable, cause, hfail⟩ | ⟨⟨position, hunseen, hseen⟩, -⟩ |
    ⟨hsendable, -, sent, m'', hsent, hsuccess⟩
  · cases hfail
    exact Or.inl ⟨hunsendable, cause, by simp⟩
  · -- Nobody else could have marked a row.
    exact absurd hunseen hseen
  · cases hsuccess
    refine Or.inr ⟨hsendable, handed, m', hsent, ?_⟩
    rw [← Memory.markedSince_self]
    rfl

end

/-! ## Drains one after another -/

/-- A round does the same with mailers that do the same. -/
theorem drainAll_of_mirrors {ω τ μ μ' : Type} {mailer : Mailer μ} {mailer' : Mailer μ'} {f : μ → μ'}
    (h : mailer.Mirrors f mailer') (warehouse : Warehouse ω τ) (templates : Templates)
    (base : String) (queues : List Queue) (w : ω) (m : μ) :
    drainAll warehouse mailer' templates base queues w (f m) =
      let (result, w, m) := drainAll warehouse mailer templates base queues w m
      (result, w, f m) := by
  induction queues generalizing w m with
  | nil => rfl
  | cons queue rest ih =>
    simp only [drainAll, drain_of_mirrors templates base h]
    rcases drain warehouse mailer templates base queue w m with ⟨_ | report, w, m⟩
    · rfl
    · simp only [ih]
      rcases drainAll warehouse mailer templates base rest w m with ⟨_ | reports, w, m⟩ <;> rfl

theorem drainAll_concat {ω τ μ : Type} (warehouse : Warehouse ω τ) (mailer : Mailer μ)
    (templates : Templates) (base : String) (queues : List Queue) (queue : Queue) (w : ω) (m : μ) :
    drainAll warehouse mailer templates base (queues ++ [queue]) w m =
      match drainAll warehouse mailer templates base queues w m with
      | (.error cause, w, m) => (.error cause, w, m)
      | (.ok reports, w, m) =>
        match drain warehouse mailer templates base queue w m with
        | (.error cause, w, m) => (.error cause, w, m)
        | (.ok report, w, m) => (.ok (reports ++ [report]), w, m) := by
  induction queues generalizing w m with
  | nil =>
    rcases hdrain : drain warehouse mailer templates base queue w m with ⟨_ | report, w', m'⟩ <;>
      simp [drainAll, hdrain]
  | cons first rest ih =>
    simp only [List.cons_append, drainAll]
    rcases drain warehouse mailer templates base first w m with ⟨_ | report, w, m⟩
    · rfl
    · simp only [ih]
      rcases drainAll warehouse mailer templates base rest w m with ⟨_ | reports, w, m⟩
      · rfl
      · simp only
        rcases drain warehouse mailer templates base queue w m with ⟨_ | last, w, m⟩ <;> rfl

section

variable (templates : Templates) (base : String) (w : State)

/-- What is handed over and reported of a queue, after some queues that come before it in the round:
a message of every row that was pending when the round began, or nothing if the queue is one of
them. -/
structure Serves (earlier : List Queue) (queue : Queue) (part : List Handed) (report : DrainReport) :
    Prop where
  first : queue ∉ earlier →
    (pending (w.queues queue)).map (fun row => row.item.message templates base) =
        part.map (fun entry => .ok entry.1) ∧
      report = {
        queue
        produced := part.length
        marked := (w.queues queue).countP fun row => row.seenAt = none
        delivered := part.countP fun entry => entry.2 = .accepted }
  again : queue ∈ earlier → part = [] ∧ report = ⟨queue, 0, 0, 0⟩

/-- What is handed over and reported of the queues of a round, each after those that come before. -/
inductive Served : List Queue → List (List Handed) → List DrainReport → Prop
  | nil : Served [] [] []
  | concat {queues : List Queue} {parts : List (List Handed)} {reports : List DrainReport}
      {queue : Queue} {part : List Handed} {report : DrainReport} (h : Served queues parts reports)
      (hserves : Serves templates base w queues queue part report) :
      Served (queues ++ [queue]) (parts ++ [part]) (reports ++ [report])

/-- What a round without failure has done. -/
structure Drained (queues : List Queue) (last : State) (reports : List DrainReport)
    (handed : List Handed) : Prop where
  /-- The messages of the queues were handed over one queue after another. -/
  served : ∃ parts, Served templates base w queues parts reports ∧ handed = parts.flatten
  /-- The rows of the queues that were unseen are marked, and nothing else in them has changed. -/
  marked : ∀ queue ∈ queues, ∃ now, last.queues queue =
    (w.queues queue).map fun row => { row with seenAt := some (row.seenAt.getD now) }
  others : ∀ queue ∉ queues, last.queues queue = w.queues queue
  rest : { last with queues := w.queues } = w

variable {templates base w}

namespace Served

variable {queues : List Queue} {parts : List (List Handed)} {reports : List DrainReport}

/-- The reports follow the list. -/
theorem map_queue (h : Served templates base w queues parts reports) :
    reports.map DrainReport.queue = queues := by
  induction h with
  | nil => rfl
  | @concat queues parts reports queue part report h hserves ih =>
    have hreport : report.queue = queue := by
      by_cases hqueue : queue ∈ queues
      · rw [(hserves.again hqueue).2]
      · rw [(hserves.first hqueue).2]
    rw [List.map_append, ih, List.map_singleton, hreport]

/-- Every message is that of a row that was pending. -/
theorem exists_pending (h : Served templates base w queues parts reports) {entry : Handed}
    (hentry : entry ∈ parts.flatten) : ∃ queue ∈ queues, ∃ row ∈ pending (w.queues queue),
      row.item.message templates base = .ok entry.1 := by
  induction h with
  | nil => cases hentry
  | @concat queues parts reports queue part report h hserves ih =>
    rw [List.flatten_append, List.mem_append, List.flatten_singleton] at hentry
    rcases hentry with hold | hnew
    · obtain ⟨other, hother, hrow⟩ := ih hold
      exact ⟨other, List.mem_append_left _ hother, hrow⟩
    · have hqueue : queue ∉ queues := fun hmem => by
        rw [(hserves.again hmem).1] at hnew
        cases hnew
      have hmessage : (.ok entry.1 : Except Failure Message) ∈
          (pending (w.queues queue)).map fun row => row.item.message templates base := by
        rw [(hserves.first hqueue).1]
        exact List.mem_map.2 ⟨entry, hnew, rfl⟩
      obtain ⟨row, hrow, hmessage⟩ := List.mem_map.1 hmessage
      exact ⟨queue, List.mem_append_right _ List.mem_cons_self, row, hrow, hmessage⟩

end Served

namespace Drained

variable {queues : List Queue} {last : State} {reports : List DrainReport} {handed : List Handed}
  {queue : Queue}

theorem nil : Drained templates base w [] w [] [] where
  served := ⟨[], .nil, rfl⟩
  marked queue hqueue := by cases hqueue
  others _ _ := rfl
  rest := rfl

/-- Every row of a queue that has been drained is seen. -/
theorem seen (h : Drained templates base w queues last reports handed) (hqueue : queue ∈ queues) :
    ∀ row ∈ last.queues queue, row.seenAt ≠ none := by
  obtain ⟨now, hmarked⟩ := h.marked queue hqueue
  intro row hrow
  rw [hmarked] at hrow
  obtain ⟨old, -, rfl⟩ := List.mem_map.1 hrow
  exact Option.some_ne_none _

theorem not_unsendable (h : Drained templates base w queues last reports handed)
    (hqueue : queue ∈ queues) : ¬Unsendable templates base (last.queues queue) := by
  rw [Unsendable, Memory.pending_of_seen (h.seen hqueue)]
  simp

/-- One more queue is drained. -/
theorem concat (h : Drained templates base w queues last reports handed) (now : Time.Instant)
    {part : List Handed}
    (hpart : (pending (last.queues queue)).map (fun row => row.item.message templates base) =
      part.map (fun entry => .ok entry.1)) :
    Drained templates base w (queues ++ [queue]) (last.markQueue now queue)
      (reports ++ [⟨queue, part.length, last.unseenCount queue, accepted part⟩])
      (handed ++ part) where
  served := by
    obtain ⟨parts, hserved, hhanded⟩ := h.served
    refine ⟨parts ++ [part], hserved.concat ⟨fun hqueue => ?_, fun hqueue => ?_⟩, ?_⟩
    · rw [h.others queue hqueue] at hpart
      refine ⟨hpart, ?_⟩
      rw [State.unseenCount_eq, h.others queue hqueue, accepted, ← List.countP_eq_length_filter]
    · have hseen := h.seen hqueue
      rw [Memory.pending_of_seen hseen, List.map_nil, eq_comm, List.map_eq_nil_iff] at hpart
      subst hpart
      exact ⟨rfl, by rw [Memory.State.unseenCount_of_seen hseen]; rfl⟩
    · rw [List.flatten_append, List.flatten_singleton, hhanded]
  marked other hother := by
    by_cases hold : other ∈ queues
    · obtain ⟨before, hmarked⟩ := h.marked other hold
      refine ⟨before, ?_⟩
      rw [State.queues_markQueue]
      split
      · rename_i hsame
        rw [← hsame, Memory.map_mark_of_seen now (h.seen hold), hmarked]
      · exact hmarked
    · obtain rfl : other = queue := by simpa [hold] using hother
      refine ⟨now, ?_⟩
      rw [State.queues_markQueue, if_pos rfl, h.others other hold]
      exact List.map_congr_left fun row _ => QueueRow.mark_eq now row
  others other hother := by
    obtain ⟨hold, hne⟩ : other ∉ queues ∧ other ≠ queue := by simpa using hother
    rw [State.queues_markQueue, if_neg hne, h.others other hold]
  rest := h.rest

end Drained

end

/-! ## Rounds -/

section

variable {μ : Type} (clock : Nat → Time.Instant) (mailer : Mailer μ) (templates : Templates)
  (base : String) (queues : List Queue) (n : Nat) (w : State) (m : μ)

/-- A round that begins at a time, with a mailer that records. -/
def round : Except Failure (List DrainReport) × (Nat × State) × (List Handed × μ) :=
  drainAll (ticking clock) mailer.recording templates base queues (n, w) ([], m)

/-- A round has drained the queues of its list before one that it could not drain. -/
structure StoppedAt (earlier : List Queue) (queue : Queue) (cause : Failure) (n' : Nat)
    (last : State) (handed : List Handed) (m' : μ) : Prop where
  listed : earlier ++ [queue] <+: queues
  /-- The round of the earlier queues, and of no others, ends in the same state and has handed over the
  same, and there the queue cannot be drained. -/
  stopped : ∃ reports before,
    round clock mailer templates base earlier n w m =
      (.ok reports, (before, last), (handed, m')) ∧
    Drained templates base w earlier last reports handed ∧
    drain (ticking clock) mailer.recording templates base queue (before, last) (handed, m') =
      (.error cause, (n', last), (handed, m'))
  /-- It is not one of the earlier ones, and there was something in it that cannot be sent. -/
  new : queue ∉ earlier
  unsendable : Unsendable templates base (w.queues queue)
  /-- No queue but the earlier ones has changed, or has a message that was handed over. -/
  untouched : ∀ other ∉ earlier, last.queues other = w.queues other
  unsent : ∀ entry ∈ handed, ∃ other ∈ earlier, ∃ row ∈ pending (w.queues other),
    row.item.message templates base = .ok entry.1

variable {clock mailer templates base queues n w m}

/-- A round that has stopped does not go on to what is listed later. -/
theorem StoppedAt.concat {earlier : List Queue} {failing : Queue} {cause : Failure} {n' : Nat}
    {last : State} {handed : List Handed} {m' : μ}
    (h : StoppedAt clock mailer templates base queues n w m earlier failing cause n' last handed m')
    (queue : Queue) : StoppedAt clock mailer templates base (queues ++ [queue]) n w m earlier failing
      cause n' last handed m' :=
  { h with listed := h.listed.trans (List.prefix_append queues [queue]) }

/-- A round drains all of its queues, if everything in them can be sent, or stops at one. -/
theorem round_cases (halive : ∀ message m, (mailer.deliver message m).1 ≠ .died) :
    (∃ reports n' last handed m', round clock mailer templates base queues n w m =
        (.ok reports, (n', last), (handed, m')) ∧
      Drained templates base w queues last reports handed ∧
      ∀ queue ∈ queues, ¬Unsendable templates base (w.queues queue)) ∨
    (∃ earlier queue cause n' last handed m', round clock mailer templates base queues n w m =
        (.error cause, (n', last), (handed, m')) ∧
      StoppedAt clock mailer templates base queues n w m earlier queue cause n' last handed m') := by
  -- From the end of the list, since a drain works on what the drains before it have left.
  induction queues using List.reverseRecOn with
  | nil => exact Or.inl ⟨[], n, w, [], m, rfl, .nil, by simp⟩
  | append_singleton queues queue ih =>
    have hconcat : round clock mailer templates base (queues ++ [queue]) n w m = _ :=
      drainAll_concat (ticking clock) mailer.recording templates base queues queue (n, w) ([], m)
    rw [← round] at hconcat
    rcases ih with ⟨reports, n', last, handed, m', hround, hdrained, hsendable⟩ |
      ⟨earlier, failing, cause, n', last, handed, m', hround, hstopped⟩
    · rcases drain_alone templates base queue clock n' last handed m' halive with
        ⟨hunsendable, cause, hfail⟩ | ⟨hsent, part, m'', hpart, hok⟩
      · simp only [hround, hfail] at hconcat
        refine Or.inr ⟨queues, queue, cause, n' + 1, last, handed, m', hconcat, ?_⟩
        have hnew : queue ∉ queues := fun hmem => hdrained.not_unsendable hmem hunsendable
        rw [hdrained.others queue hnew] at hunsendable
        obtain ⟨parts, hserved, hhanded⟩ := hdrained.served
        exact {
          listed := List.prefix_rfl
          stopped := ⟨reports, n', hround, hdrained, hfail⟩
          new := hnew
          unsendable := hunsendable
          untouched := hdrained.others
          unsent := fun entry hentry => hserved.exists_pending (hhanded ▸ hentry) }
      · simp only [hround, hok] at hconcat
        refine Or.inl ⟨_, _, _, _, _, hconcat, hdrained.concat (clock (n' + 1)) hpart, ?_⟩
        intro other hother
        by_cases hold : other ∈ queues
        · exact hsendable other hold
        · obtain rfl : other = queue := by simpa [hold] using hother
          rwa [hdrained.others other hold] at hsent
    · simp only [hround] at hconcat
      exact Or.inr ⟨earlier, failing, cause, n', last, handed, m', hconcat, hstopped.concat queue⟩

variable (clock mailer templates base queues n w m)

/-- What a round does. -/
structure Orderly : Prop where
  /-- It is what the mailer does that records nothing. -/
  plain :
    let (result, ended, _, m') := round clock mailer templates base queues n w m
    drainAll (ticking clock) mailer templates base queues (n, w) m = (result, ended, m')
  /-- If it succeeds, its queues are drained and nothing else has changed, it reports on them in the
  order of the list, and whoever drains one of them again finds nothing to do. -/
  success : ∀ reports n' last handed m',
    round clock mailer templates base queues n w m = (.ok reports, (n', last), (handed, m')) →
      Drained templates base w queues last reports handed ∧
      reports.map DrainReport.queue = queues ∧
      (∀ queue ∈ queues, ∀ row ∈ last.queues queue, row.seenAt ≠ none) ∧
      ∀ queue ∈ queues,
        drain (ticking clock) mailer.recording templates base queue (n', last) (handed, m') =
          (.ok ⟨queue, 0, 0, 0⟩, (n' + 1, last), (handed, m'))
  /-- If it fails, it has stopped at a queue. -/
  failure : ∀ cause n' last handed m',
    round clock mailer templates base queues n w m = (.error cause, (n', last), (handed, m')) →
      ∃ earlier queue,
        StoppedAt clock mailer templates base queues n w m earlier queue cause n' last handed m'
  /-- It fails if and only if something in one of its queues cannot be sent. -/
  fails_iff : (∃ cause, (round clock mailer templates base queues n w m).1 = .error cause) ↔
    ∃ queue ∈ queues, Unsendable templates base (w.queues queue)

variable {mailer}

/-- **Rounds stop cleanly**: with nobody else at work and a mailer that does not break down, a round
drains its queues up to the first one that cannot be drained, as if no others had been listed. -/
theorem orderly_round (halive : ∀ message m, (mailer.deliver message m).1 ≠ .died) :
    Orderly clock mailer templates base queues n w m := by
  have hplain := drainAll_of_mirrors (recording_mirrors mailer) (ticking clock) templates base queues
    (n, w) ([], m)
  rcases @round_cases μ clock mailer templates base queues n w m halive with
    ⟨reports, n', last, handed, m', hround, hdrained, hsendable⟩ |
    ⟨earlier, queue, cause, n', last, handed, m', hround, hstopped⟩
  · refine ⟨hplain, ?success, ?failure, ?fails_iff⟩
    case success =>
      intro reports' n'' last' handed' m'' h
      cases hround.symm.trans h
      obtain ⟨parts, hserved, -⟩ := hdrained.served
      exact ⟨hdrained, hserved.map_queue, fun _ hqueue => hdrained.seen hqueue,
        fun queue hqueue =>
          drain_of_seen templates base queue mailer.recording clock n' (handed, m') (hdrained.seen hqueue)⟩
    case failure =>
      intro cause n'' last' handed' m'' h
      cases hround.symm.trans h
    case fails_iff =>
      rw [hround]
      constructor
      · rintro ⟨cause, h⟩
        cases h
      · rintro ⟨queue, hqueue, hunsendable⟩
        exact absurd hunsendable (hsendable queue hqueue)
  · refine ⟨hplain, ?success, ?failure, ?fails_iff⟩
    case success =>
      intro reports n'' last' handed' m'' h
      cases hround.symm.trans h
    case failure =>
      intro cause' n'' last' handed' m'' h
      cases hround.symm.trans h
      exact ⟨earlier, queue, hstopped⟩
    case fails_iff =>
      rw [hround]
      have hqueue : queue ∈ queues :=
        hstopped.listed.subset (List.mem_append_right earlier List.mem_cons_self)
      exact ⟨fun _ => ⟨queue, hqueue, hstopped.unsendable⟩, fun _ => ⟨cause, rfl⟩⟩

/-- A queue that is listed twice is drained once. Nobody can be told of what the second queue holds,
so a round that goes on to it fails there; what stands behind it is left alone. -/
theorem orderly_round_of_unaddressed :
    let counting : Mailer Nat := ⟨fun _ count => (.accepted, count + 1)⟩
    let note : Template := ⟨"note", [.literal "Code: ".toList, .field "SecretKey"]⟩
    let code (seenAt : Option Time.Instant) : QueueRow :=
      ⟨.reset ⟨1, "ada@uwaterloo.ca", "Ada", "1<2"⟩, seenAt⟩
    let seats : QueueRow := ⟨.vacated ⟨1, "", "Bob", "cs135", ["LEC 001"]⟩, none⟩
    let w : State := { queues := fun queue => if queue = .passwordReset then
      [code none, code (some ⟨1, 0⟩)] else if queue = .sectionVacated then [seats] else [] }
    let clock (n : Nat) : Time.Instant := ⟨n, 5⟩
    let outcome (queues : List Queue) :=
      round clock counting ⟨note, note, note, note⟩ "" queues 7 w 0
    let twice : List Queue := [.passwordReset, .passwordReset]
    let further : List Queue := twice ++ [.sectionVacated, .sectionSubscribed]
    let message : Message := ⟨"ada@uwaterloo.ca", "Reset your password on UW Flow", "Code: 1&lt;2"⟩
    (∀ message count, (counting.deliver message count).1 ≠ .died) ∧
    (outcome twice).1.toOption = some [⟨.passwordReset, 1, 1, 1⟩, ⟨.passwordReset, 0, 0, 0⟩] ∧
    (outcome further).1.toOption = none ∧
    (∀ queues ∈ [twice, further],
      (outcome queues).2.2 = ([(message, .accepted)], 1) ∧
      (outcome queues).2.1.2.queues .passwordReset = [code (some ⟨8, 5⟩), code (some ⟨1, 0⟩)] ∧
      (outcome queues).2.1.2.queues .sectionVacated = [seats]) ∧
    Orderly clock counting ⟨note, note, note, note⟩ "" twice 7 w 0 ∧
    Orderly clock counting ⟨note, note, note, note⟩ "" further 7 w 0 := by
  intro counting note code seats w clock outcome twice further message
  have halive : ∀ message count, (counting.deliver message count).1 ≠ .died := by
    intro message count hdied
    cases hdied
  exact ⟨halive, by decide +kernel, by decide +kernel, by decide +kernel,
    orderly_round _ _ _ twice _ _ _ halive, orderly_round _ _ _ further _ _ _ halive⟩

end

end Registrar.Mail
