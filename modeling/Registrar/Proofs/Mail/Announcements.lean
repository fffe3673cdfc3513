import Registrar.Proofs.Mail.AtMostOnce
/-!
# Nobody is told twice of a course

A user who subscribes to several sections of a course is told of the course once. A drain looks
only at what its own snapshot shows as seen, so two drains that are under way together may both find
a row of the user and the course. They do not both commit: a row that the earlier snapshot shows as
unseen is in the later one as well (`Ordered`), and there it is either seen, which silences the
later drain (`Errand.Announces.silent`), or unseen, which sets the commits of the two drains against
each other (`Office.Sound.apart`).

Main statement: `announcedOnce_run`.
-/
namespace Registrar.Mail

open Memory (State QueueRow Kept SeenAt markedSince selectedRows isUnseenAt courseKey? notified)

/-! ## Whom a drain tells -/

/-- A user and the lower-cased code of a course. -/
abbrev Pair := String × Int

/-- The rows of the queue of a drain, as its snapshot shows them. -/
def Errand.rows (errand : Errand) : List QueueRow := errand.snapshot.queues errand.queue

/-- The drain makes a message of a row of the pair. -/
def Errand.Announces (errand : Errand) (pair : Pair) : Prop :=
  ∃ entry ∈ selectedRows errand.rows, courseKey? entry.1 = some pair

/-- The row at a position is unseen, and the drain passes over it because a row of the same pair has
been seen. -/
def Errand.Suppresses (errand : Errand) (pair : Pair) (position : Nat) : Prop :=
  (∃ row, errand.rows[position]? = some row ∧ row.seen = false ∧ courseKey? row = some pair) ∧
  ∃ row ∈ errand.rows, row.seen = true ∧ courseKey? row = some pair

theorem notified_eq_true_iff {rows : List QueueRow} {row : QueueRow} {pair : Pair}
    (hpair : courseKey? row = some pair) :
    notified rows row = true ↔
      ∃ other ∈ rows, other.seen = true ∧ courseKey? other = some pair := by
  simp [notified, hpair]

/-- A row is told if and only if it is unseen and no row of its pair has been seen. -/
theorem mem_selectedRows_iff {rows : List QueueRow} {row : QueueRow} {position : Nat} {pair : Pair}
    (hpair : courseKey? row = some pair) :
    (row, position) ∈ selectedRows rows ↔ rows[position]? = some row ∧ row.seen = false ∧
      ∀ other ∈ rows, other.seen = true → courseKey? other ≠ some pair := by
  have hsilent : notified rows row = false ↔
      ∀ other ∈ rows, other.seen = true → courseKey? other ≠ some pair := by
    rw [← Bool.not_eq_true, notified_eq_true_iff hpair]
    simp
  simp only [selectedRows, List.mem_filter, List.mem_zipIdx_iff_getElem?, Bool.and_eq_true,
    Bool.not_eq_true', hsilent]

namespace Errand

variable {errand : Errand} {pair : Pair}

/-- A drain that tells a pair has found an unseen row of it. -/
theorem Announces.exists_unseen (h : errand.Announces pair) :
    ∃ (position : Nat) (row : QueueRow), errand.rows[position]? = some row ∧ row.seen = false ∧
      courseKey? row = some pair := by
  obtain ⟨⟨row, position⟩, hmem, hpair⟩ := h
  obtain ⟨hrow, hunseen, -⟩ := (mem_selectedRows_iff hpair).1 hmem
  exact ⟨position, row, hrow, hunseen, hpair⟩

/-- A drain that tells a pair has found no seen row of it. -/
theorem Announces.silent (h : errand.Announces pair) {row : QueueRow} (hrow : row ∈ errand.rows)
    (hpair : courseKey? row = some pair) : row.seen = false := by
  obtain ⟨⟨told, position⟩, hmem, htold⟩ := h
  obtain ⟨-, -, hnone⟩ := (mem_selectedRows_iff htold).1 hmem
  exact Bool.eq_false_iff.2 fun hseen => hnone row hrow hseen hpair

/-- An unseen row of a pair is told, or the drain passes over the pair. -/
theorem announces_or_suppresses {position : Nat} {row : QueueRow}
    (hrow : errand.rows[position]? = some row) (hunseen : row.seen = false)
    (hpair : courseKey? row = some pair) :
    (row, position) ∈ selectedRows errand.rows ∨ errand.Suppresses pair position := by
  by_cases hseen : ∃ other ∈ errand.rows, other.seen = true ∧ courseKey? other = some pair
  · exact Or.inr ⟨⟨row, hrow, hunseen, hpair⟩, hseen⟩
  · refine Or.inl ((mem_selectedRows_iff hpair).2
      ⟨hrow, hunseen, fun other hother hsee hother' => ?_⟩)
    exact hseen ⟨other, hother, hsee, hother'⟩

end Errand

/-! ## The order of snapshots -/

namespace Office

variable {office : Office} {i j : Nat}

/-- A later snapshot holds the rows of every earlier one. -/
def Ordered (office : Office) : Prop :=
  ∀ i j, i ≤ j → ∀ errand errand', office.errand? i = some errand →
    office.errand? j = some errand' → Kept errand.snapshot errand'.snapshot

@[simp] theorem length_setPhase (drain : Drain) (phase : Phase) :
    (office.setPhase i drain phase).drains.length = office.drains.length := by
  simp [setPhase]

/-- Only a beginning adds a drain. -/
theorem Sound.length_step (h : office.Sound) (event : Event) :
    (∃ queue templates base, event = .begin queue templates base) ∨
      (office.step event).drains.length = office.drains.length := by
  cases event with
  | begin queue templates base => exact Or.inl ⟨queue, templates, base, rfl⟩
  | advance i now =>
    rcases h.advance_cases i now with hsame | ⟨drain, phase, -, -, -, hstep⟩ |
      ⟨drain, messages, time, -, -, -, -, hstep⟩
    · exact Or.inr (by rw [hsame])
    · exact Or.inr (by rw [hstep, length_setPhase])
    · exact Or.inr (by rw [hstep]; exact length_setPhase drain _)
  | deliver i delivery =>
    rcases deliver_cases office i delivery with
      hsame | ⟨drain, done, message, rest, phase, -, -, -, hstep⟩
    · exact Or.inr (by rw [hsame])
    · exact Or.inr (by rw [hstep]; exact length_setPhase drain phase)
  | enqueue queue row => exact Or.inr rfl

/-- After a step a drain is about what it was about, or it is the one that has just begun. -/
theorem Sound.errand?_step_cases (h : office.Sound) (event : Event) {errand : Errand}
    (hget : (office.step event).errand? i = some errand) :
    office.errand? i = some errand ∨
      (i = office.drains.length ∧ errand.snapshot = office.shared) := by
  by_cases hlt : i < office.drains.length
  · have hold : office.errand? i = some office.drains[i].toErrand :=
      errand?_eq (List.getElem?_eq_getElem hlt)
    rw [errand?_step h hold event] at hget
    exact Or.inl (hold.trans hget)
  · obtain ⟨drain, hdrain, rfl⟩ := Option.map_eq_some_iff.1 hget
    obtain ⟨hin, hdrain⟩ := List.getElem?_eq_some_iff.1 hdrain
    rcases h.length_step event with ⟨queue, templates, base, rfl⟩ | hlength
    · have hplace : i = office.drains.length := by
        simp only [Office.step, List.length_append, List.length_singleton] at hin
        omega
      subst hplace
      have hstart : drain = Drain.start queue templates base office.shared := by
        rw [← hdrain]
        simp [Office.step]
      exact Or.inr ⟨rfl, by rw [hstart]; rfl⟩
    · exact absurd (hlength ▸ hin) hlt

/-- Whatever happens keeps the snapshots in order: a new one holds every row that there is. -/
theorem Ordered.step (hordered : office.Ordered) (h : office.Sound) (event : Event) :
    (office.step event).Ordered := by
  intro i j hij errand errand' hget hget'
  rcases h.errand?_step_cases event hget with hold | ⟨rfl, hnew⟩ <;>
    rcases h.errand?_step_cases event hget' with hold' | ⟨rfl, hnew'⟩
  · exact hordered i j hij errand errand' hold hold'
  · rw [hnew']
    exact h.kept i errand hold
  · obtain ⟨drain, hdrain, -⟩ := Option.map_eq_some_iff.1 hold'
    have hlt := (List.getElem?_eq_some_iff.1 hdrain).1
    omega
  · rw [hnew, hnew']
    exact Kept.refl _

theorem Ordered.run (hordered : office.Ordered) (h : office.Sound) (events : List Event) :
    (office.run events).Ordered := by
  induction events generalizing office with
  | nil => exact hordered
  | cons event rest ih => exact ih (hordered.step h event) (h.step event)

theorem ordered_after (start : State) (events : List Event) : (after start events).Ordered :=
  Ordered.run (by simp [Ordered, errand?]) (sound_start start) events

/-! ## At most one drain for a pair -/

variable {errand errand' : Errand} {pair : Pair}

/-- Of two committed drains of a queue the one with the later snapshot does not tell a pair that the
other one tells. -/
theorem Sound.eq_of_announces_of_le (h : office.Sound) (hordered : office.Ordered)
    (hi : i ∈ office.committed) (hj : j ∈ office.committed) (hij : i ≤ j)
    (hget : office.errand? i = some errand) (hget' : office.errand? j = some errand')
    (hqueue : errand.queue = errand'.queue) (htells : errand.Announces pair)
    (htells' : errand'.Announces pair) : i = j := by
  obtain ⟨position, row, hrow, hunseen, hpair⟩ := htells.exists_unseen
  obtain ⟨later, hlater, hitem, -⟩ :=
    hordered i j hij errand errand' hget hget' errand.queue position row hrow
  rw [hqueue] at hlater
  have hpair' : courseKey? later = some pair := by rw [← hpair, courseKey?, hitem, courseKey?]
  -- the row of the earlier snapshot is unseen in the later one too, since that drain tells the pair
  have hunseen' : later.seen = false := htells'.silent (List.mem_of_getElem? hlater) hpair'
  exact h.apart i hi j hj errand errand' hget hget' hqueue position
    (Memory.isUnseenAt_iff.2 ⟨row, hrow, hunseen⟩)
    (Memory.isUnseenAt_iff.2 ⟨later, hlater, hunseen'⟩)

theorem Sound.eq_of_announces (h : office.Sound) (hordered : office.Ordered)
    (hi : i ∈ office.committed) (hj : j ∈ office.committed)
    (hget : office.errand? i = some errand) (hget' : office.errand? j = some errand')
    (hqueue : errand.queue = errand'.queue) (htells : errand.Announces pair)
    (htells' : errand'.Announces pair) : i = j := by
  rcases Nat.le_total i j with hij | hji
  · exact h.eq_of_announces_of_le hordered hi hj hij hget hget' hqueue htells htells'
  · exact (h.eq_of_announces_of_le hordered hj hi hji hget' hget hqueue.symm htells' htells).symm

/-- What was handed over tells a pair: that of the row behind it. -/
def Tells (office : Office) (handover : Handover) (queue : Queue) (pair : Pair) : Prop :=
  ∃ position row, office.rowOf handover = some (queue, position) ∧
    (office.shared.queues queue)[position]? = some row ∧ courseKey? row = some pair

/-- A pair that is told is one that the drain makes messages for. -/
theorem Sound.announces_of_tells (h : office.Sound) {handover : Handover} {queue : Queue}
    (hmem : handover ∈ office.handed) (htells : office.Tells handover queue pair) :
    ∃ errand, office.errand? handover.drain = some errand ∧ errand.queue = queue ∧
      errand.Announces pair := by
  obtain ⟨position, later, hrowOf, hlater, hpair⟩ := htells
  obtain ⟨errand, row, position', hget, hselected, hrowOf', hrow, -, -⟩ := h.rowOf_eq hmem
  rw [hrowOf, Option.some.injEq, Prod.mk.injEq] at hrowOf'
  obtain ⟨rfl, rfl⟩ := hrowOf'
  obtain ⟨later', hlater', hitem, -⟩ := h.kept _ errand hget errand.queue position row hrow
  obtain rfl : later = later' := Option.some.inj (hlater.symm.trans hlater')
  refine ⟨errand, hget, rfl, (row, position), List.mem_of_getElem? hselected, ?_⟩
  rw [← hpair, courseKey?, courseKey?, hitem]

/-- **A commit** gives the consumer a message of every row that the drain tells, and marks every row
that was unseen at the begin of the drain, which nobody has marked before. -/
theorem Sound.commit_cases (h : office.Sound) {event : Event}
    (hcommitted : (office.step event).committed = office.committed ++ [i]) :
    ∃ drain messages, (office.step event).drains[i]? = some drain ∧
      drain.phase = .delivering 0 messages ∧ drain.toErrand.Messages messages ∧
      ∀ position, isUnseenAt drain.rows position = true →
        isUnseenAt (office.shared.queues drain.queue) position = true ∧
        SeenAt ((office.step event).shared.queues drain.queue) position := by
  have hgrows : office.committed ≠ office.committed ++ [i] := by simp
  cases event with
  | begin queue templates base => exact absurd hcommitted hgrows
  | advance k now =>
    rcases h.advance_cases k now with hsame | ⟨drain, phase, -, -, -, hstep⟩ |
      ⟨drain, messages, time, hget, -, hmessages, hfree, hstep⟩
    · rw [hsame] at hcommitted
      exact absurd hcommitted hgrows
    · rw [hstep] at hcommitted
      exact absurd hcommitted hgrows
    · rw [hstep] at hcommitted ⊢
      obtain rfl : k = i := by simpa using hcommitted
      refine ⟨_, messages, getElem?_setPhase hget (.delivering 0 messages), rfl, hmessages, ?_⟩
      exact fun position hunseen => ⟨hfree position hunseen,
        Memory.seenAt_markedSince time drain.queue hfree hunseen⟩
  | deliver k delivery =>
    rcases deliver_cases office k delivery with
      hsame | ⟨drain, done, message, rest, phase, -, -, -, hstep⟩
    · rw [hsame] at hcommitted
      exact absurd hcommitted hgrows
    · rw [hstep] at hcommitted
      exact absurd hcommitted hgrows
  | enqueue queue row => exact absurd hcommitted hgrows

end Office

open Office (after)

/-! ## Whole histories -/

/-- In a history of drains every pair is told by at most one drain of a queue. -/
structure AnnouncedOnce (queue : Queue) (start : State) (events : List Event) : Prop where
  /-- No two committed drains make messages for the same pair. -/
  once : ∀ i ∈ (after start events).committed, ∀ j ∈ (after start events).committed,
    ∀ errand errand', (after start events).errand? i = some errand →
      (after start events).errand? j = some errand' →
      errand.queue = queue → errand'.queue = queue → ∀ pair,
        errand.Announces pair → errand'.Announces pair → i = j
  /-- What is in the hands of mailers for the same pair comes from the same drain. -/
  handed : ∀ one ∈ (after start events).handed, ∀ other ∈ (after start events).handed, ∀ pair,
    (after start events).Tells one queue pair → (after start events).Tells other queue pair →
      one.drain = other.drain
  /-- A drain in whose snapshot a row of the pair has been seen makes no message for it, and hands
  none over. -/
  silent : ∀ i errand, (after start events).errand? i = some errand → errand.queue = queue →
    ∀ pair, ∀ row ∈ errand.rows, row.seen = true → courseKey? row = some pair →
      ¬errand.Announces pair ∧
      ∀ handover ∈ (after start events).handed, handover.drain = i →
        ¬(after start events).Tells handover queue pair
  /-- What a drain gives to its consumer with its commit are the messages of the rows that it tells;
  every unseen row of a pair is one of these or passed over. -/
  told : ∀ before event later, events = before ++ event :: later → ∀ i,
    (after start (before ++ [event])).committed = (after start before).committed ++ [i] →
    ∃ drain messages, (after start (before ++ [event])).drains[i]? = some drain ∧
      drain.phase = .delivering 0 messages ∧
      (selectedRows drain.rows).map (fun entry =>
        entry.1.item.message drain.templates drain.base) = messages.map .ok ∧
      ∀ position row pair, drain.rows[position]? = some row → row.seen = false →
        courseKey? row = some pair →
          (row, position) ∈ selectedRows drain.rows ∨ drain.Suppresses pair position
  /-- The commit marks the rows that the drain passed over; nobody has marked them before. -/
  marked : ∀ before event later, events = before ++ event :: later → ∀ i,
    (after start (before ++ [event])).committed = (after start before).committed ++ [i] →
    ∀ errand, (after start events).errand? i = some errand →
      ∀ pair position, errand.Suppresses pair position →
        isUnseenAt ((after start before).shared.queues errand.queue) position = true ∧
        SeenAt ((after start (before ++ [event])).shared.queues errand.queue) position

/-- **Told at most once**: whatever the order in which drains begin, select, mark and commit, and
whatever rows are added in between, seen or unseen. -/
theorem announcedOnce_run (queue : Queue) (start : State) (events : List Event) :
    AnnouncedOnce queue start events := by
  have hsound : ∀ some, (after start some).Sound := fun some => (Office.sound_start start).run some
  have hordered := Office.ordered_after start events
  have hstep : ∀ before event, after start (before ++ [event]) = (after start before).step event :=
    fun before event => Office.run_append _ _ _
  refine ⟨?_, ?_, ?_, ?_, ?_⟩
  · intro i hi j hj errand errand' hget hget' hqueue hqueue' pair
    exact (hsound events).eq_of_announces hordered hi hj hget hget' (hqueue.trans hqueue'.symm)
  · intro one hone other hother pair htells htells'
    obtain ⟨errand, hget, hqueue, hannounces⟩ := (hsound events).announces_of_tells hone htells
    obtain ⟨errand', hget', hqueue', hannounces'⟩ :=
      (hsound events).announces_of_tells hother htells'
    exact (hsound events).eq_of_announces hordered ((hsound events).handed one hone).1
      ((hsound events).handed other hother).1 hget hget' (hqueue.trans hqueue'.symm)
      hannounces hannounces'
  · intro i errand hget hqueue pair row hrow hseen hpair
    have hsilent : ¬errand.Announces pair := by
      intro hannounces
      rw [hannounces.silent hrow hpair] at hseen
      cases hseen
    refine ⟨hsilent, ?_⟩
    rintro handover hmem rfl htells
    obtain ⟨errand', hget', -, hannounces⟩ := (hsound events).announces_of_tells hmem htells
    obtain rfl : errand = errand' := Option.some.inj (hget.symm.trans hget')
    exact hsilent hannounces
  · intro before event later hevents i hcommitted
    rw [hstep] at hcommitted ⊢
    obtain ⟨drain, messages, hget, hphase, hmessages, -⟩ := (hsound before).commit_cases hcommitted
    refine ⟨drain, messages, hget, hphase, ?_, fun position row pair => ?_⟩
    · rw [Errand.Messages, Memory.selected_eq, List.map_map] at hmessages
      exact hmessages
    · exact Errand.announces_or_suppresses
  · rintro before event later rfl i hcommitted errand hget pair position
      ⟨⟨row, hrow, hunseen, -⟩, -⟩
    rw [hstep] at hcommitted ⊢
    obtain ⟨drain, messages, hdrain, -, -, hmarked⟩ := (hsound before).commit_cases hcommitted
    have hlast := Office.errand?_run ((hsound before).step event) (Office.errand?_eq hdrain) later
    have hsplit : after start (before ++ event :: later) =
        ((after start before).step event).run later := Office.run_append _ _ _
    obtain rfl : drain.toErrand = errand := Option.some.inj (hlast.symm.trans (hsplit ▸ hget))
    exact hmarked position (Memory.isUnseenAt_iff.2 ⟨row, hrow, hunseen⟩)

end Registrar.Mail
