import Mathlib.Data.List.Nodup
import Registrar.Proofs.Mail.Office
/-!
# No message goes out twice

However many drains are under way, and in whatever order their steps come, a row of a queue is told
at most once. The invariant is `Office.Sound`: the rows that were unseen at the begin of a committed
drain have been seen, so that no two committed drains have such a row in common (`Sound.apart`);
and only committed drains hand anything over, each of its messages once.

Main statement: `atMostOnce_run`.
-/
namespace Registrar.Mail

open Memory (State QueueRow Kept SeenAt markedSince selected selectedRows isUnseenAt)

namespace Office

/-- What the drain of that number is about. -/
def errand? (office : Office) (i : Nat) : Option Errand := office.drains[i]?.map Drain.toErrand

theorem errand?_eq {office : Office} {i : Nat} {drain : Drain} (h : office.drains[i]? = some drain) :
    office.errand? i = some drain.toErrand := by
  rw [errand?, h, Option.map_some]

/-- The phase of a drain goes with what is committed and handed over. -/
structure Fits (office : Office) (i : Nat) (drain : Drain) : Prop where
  talking : ∀ program tx, drain.phase = .talking program tx →
    drain.toErrand.Stage program tx ∧ i ∉ office.committed
  delivering : ∀ done held, drain.phase = .delivering done held →
    i ∈ office.committed ∧
    (∃ messages, drain.toErrand.Messages messages ∧ held = messages.drop done) ∧
    ∀ handover ∈ office.handed, handover.drain = i → handover.place < done

/-- Committed drains, and only these, have marked what was unseen at their begin, and hand it over. -/
structure Sound (office : Office) : Prop where
  kept : ∀ i errand, office.errand? i = some errand → Kept errand.snapshot office.shared
  fits : ∀ i drain, office.drains[i]? = some drain → office.Fits i drain
  marked : ∀ i ∈ office.committed, ∃ errand, office.errand? i = some errand ∧
    ∀ position, isUnseenAt (errand.snapshot.queues errand.queue) position = true →
      SeenAt (office.shared.queues errand.queue) position
  nodup : office.committed.Nodup
  /-- Two committed drains have no unseen row in common. -/
  apart : ∀ i ∈ office.committed, ∀ j ∈ office.committed, ∀ errand errand',
    office.errand? i = some errand → office.errand? j = some errand' →
    errand.queue = errand'.queue → ∀ position,
      isUnseenAt (errand.snapshot.queues errand.queue) position = true →
      isUnseenAt (errand'.snapshot.queues errand'.queue) position = true → i = j
  handed : ∀ handover ∈ office.handed, handover.drain ∈ office.committed ∧
    ∃ errand messages, office.errand? handover.drain = some errand ∧ errand.Messages messages ∧
      messages[handover.place]? = some handover.message
  once : (office.handed.map fun handover => (handover.drain, handover.place)).Nodup

theorem sound_start (start : State) : Sound { shared := start } where
  kept := by simp [errand?]
  fits := by simp
  marked := by simp
  nodup := List.nodup_nil
  apart := by simp
  handed := by simp
  once := by simp

variable {office : Office} {i : Nat} {drain : Drain}

@[simp] theorem errand?_setPhase (h : office.drains[i]? = some drain) (phase : Phase) (j : Nat) :
    (office.setPhase i drain phase).errand? j = office.errand? j := by
  by_cases hij : i = j
  · subst hij
    rw [errand?_eq (getElem?_setPhase h phase), errand?_eq h]
  · rw [errand?, setPhase, List.getElem?_set_ne hij, errand?]

theorem getElem?_setPhase_cases {phase : Phase} {j : Nat} {other : Drain}
    (h : (office.setPhase i drain phase).drains[j]? = some other) :
    (j = i ∧ other = { drain with phase }) ∨ (j ≠ i ∧ office.drains[j]? = some other) := by
  by_cases hij : i = j
  · subst hij
    simp only [setPhase, List.getElem?_set_self', Option.map_eq_map, Option.map_eq_some_iff] at h
    obtain ⟨old, -, rfl⟩ := h
    exact Or.inl ⟨rfl, rfl⟩
  · rw [setPhase, List.getElem?_set_ne hij] at h
    exact Or.inr ⟨Ne.symm hij, h⟩

/-! ## Steps -/

/-- **What a producer does to the office**: nothing, or it moves its drain to another point or to its
end, or it commits. -/
theorem Sound.advance_cases (h : office.Sound) (i : Nat) (now : Time.Instant) :
    office.step (.advance i now) = office ∨
    (∃ drain phase, office.drains[i]? = some drain ∧ i ∉ office.committed ∧
      (phase = .ended ∨ ∃ program tx, phase = .talking program tx ∧
        drain.toErrand.Stage program tx) ∧
      office.step (.advance i now) = office.setPhase i drain phase) ∨
    (∃ drain messages time, office.drains[i]? = some drain ∧ i ∉ office.committed ∧
      drain.toErrand.Messages messages ∧
      (∀ position, isUnseenAt (drain.snapshot.queues drain.queue) position = true →
        isUnseenAt (office.shared.queues drain.queue) position = true) ∧
      office.step (.advance i now) =
        { office.setPhase i drain (.delivering 0 messages) with
          shared := markedSince time drain.queue drain.snapshot office.shared
          committed := office.committed ++ [i] }) := by
  cases hget : office.drains[i]? with
  | none => exact Or.inl (by simp only [step, hget])
  | some drain =>
    cases hphase : drain.phase with
    | talking program tx =>
      obtain ⟨hstage, hopen⟩ := (h.fits i drain hget).talking program tx hphase
      have hstep := step_advance hget hphase now
      refine Or.inr ?_
      rcases hstage.advance_cases now office.shared with
        ⟨program', tx', hnext, hstage'⟩ | hover | ⟨messages, time, hmessages, hfree, hcommit⟩
      · rw [hnext] at hstep
        exact Or.inl ⟨drain, _, rfl, hopen, Or.inr ⟨program', tx', rfl, hstage'⟩, hstep⟩
      · rw [hover] at hstep
        exact Or.inl ⟨drain, _, rfl, hopen, Or.inl rfl, hstep⟩
      · rw [hcommit] at hstep
        exact Or.inr ⟨drain, messages, time, rfl, hopen, hmessages, hfree, hstep⟩
    | delivering done held => exact Or.inl (by simp only [step, hget, hphase])
    | ended => exact Or.inl (by simp only [step, hget, hphase])

/-- **What a consumer does to the office**: nothing, or it hands over its next message. -/
theorem deliver_cases (office : Office) (i : Nat) (delivery : Delivery) :
    office.step (.deliver i delivery) = office ∨
    ∃ drain done message rest phase, office.drains[i]? = some drain ∧
      drain.phase = .delivering done (message :: rest) ∧
      (phase = .ended ∨ phase = .delivering (done + 1) rest) ∧
      office.step (.deliver i delivery) =
        { office.setPhase i drain phase with
          handed := office.handed ++ [⟨i, done, message⟩] } := by
  cases hget : office.drains[i]? with
  | none => exact Or.inl (by simp only [step, hget])
  | some drain =>
    cases hphase : drain.phase with
    | talking program tx => exact Or.inl (by simp only [step, hget, hphase])
    | ended => exact Or.inl (by simp only [step, hget, hphase])
    | delivering done held =>
      cases held with
      | nil => exact Or.inl (by simp only [step, hget, hphase])
      | cons message rest =>
        have hstep : office.step (.deliver i delivery) =
            { office.setPhase i drain
                (if delivery = .died then .ended else .delivering (done + 1) rest) with
              handed := office.handed ++ [⟨i, done, message⟩] } := by
          simp only [step, hget, hphase]
        refine Or.inr ⟨drain, done, message, rest, _, rfl, hphase, ?_, hstep⟩
        split
        · exact Or.inl rfl
        · exact Or.inr rfl

/-! ## The invariant -/

namespace Sound

/-- A step that commits nothing and hands nothing over keeps the invariant if it keeps what the drains
are about and the rows of queues, and the phases go with the rest. -/
theorem frame {next : Office} (h : office.Sound) (hcommitted : next.committed = office.committed)
    (hhanded : next.handed = office.handed) (hshared : Kept office.shared next.shared)
    (herrand : ∀ i errand, office.errand? i = some errand → next.errand? i = some errand)
    (hkept : ∀ i errand, next.errand? i = some errand → Kept errand.snapshot next.shared)
    (hfits : ∀ i drain, next.drains[i]? = some drain → office.Fits i drain) : next.Sound where
  kept := hkept
  fits := by
    intro i drain hget
    obtain ⟨htalking, hdelivering⟩ := hfits i drain hget
    exact ⟨hcommitted ▸ htalking, hcommitted ▸ hhanded ▸ hdelivering⟩
  marked := by
    intro i hi
    obtain ⟨errand, hget, hseen⟩ := h.marked i (hcommitted ▸ hi)
    exact ⟨errand, herrand i errand hget, fun position hunseen =>
      hshared.seenAt (hseen position hunseen)⟩
  nodup := hcommitted ▸ h.nodup
  apart := by
    intro i hi j hj errand errand' hget hget'
    rw [hcommitted] at hi hj
    obtain ⟨old, hold, -⟩ := h.marked i hi
    obtain ⟨old', hold', -⟩ := h.marked j hj
    obtain rfl : old = errand := Option.some.inj ((herrand i old hold).symm.trans hget)
    obtain rfl : old' = errand' := Option.some.inj ((herrand j old' hold').symm.trans hget')
    exact h.apart i hi j hj old old' hold hold'
  handed := by
    intro handover hmem
    obtain ⟨hdrain, errand, messages, hget, hmessages⟩ := h.handed handover (hhanded ▸ hmem)
    exact ⟨hcommitted ▸ hdrain, errand, messages, herrand _ errand hget, hmessages⟩
  once := hhanded ▸ h.once

/-- A drain that moves to another point, or is over, keeps the invariant. -/
theorem setPhase (h : office.Sound) (hget : office.drains[i]? = some drain) {phase : Phase}
    (hfits : office.Fits i { drain with phase }) : (office.setPhase i drain phase).Sound := by
  refine h.frame rfl rfl (Kept.refl _) ?_ ?_ ?_
  · intro j errand hj
    rwa [errand?_setPhase hget]
  · intro j errand hj
    rw [errand?_setPhase hget] at hj
    exact h.kept j errand hj
  · intro j other hother
    rcases getElem?_setPhase_cases hother with ⟨rfl, rfl⟩ | ⟨-, hsame⟩
    · exact hfits
    · exact h.fits j other hsame

/-- The commit of a drain keeps the invariant. -/
theorem commit (h : office.Sound) (hget : office.drains[i]? = some drain)
    (hnew : i ∉ office.committed) {messages : List Message}
    (hmessages : drain.toErrand.Messages messages) (time : Time.Instant)
    (hfree : ∀ position, isUnseenAt (drain.snapshot.queues drain.queue) position = true →
      isUnseenAt (office.shared.queues drain.queue) position = true) :
    Sound { office.setPhase i drain (.delivering 0 messages) with
      shared := markedSince time drain.queue drain.snapshot office.shared
      committed := office.committed ++ [i] } := by
  have hkept := Memory.kept_markedSince time drain.queue hfree
  have herrand := errand?_setPhase hget (.delivering 0 messages)
  -- no row of the drain is a row of a drain that committed before
  have hdistinct : ∀ j ∈ office.committed, ∀ errand, office.errand? j = some errand →
      drain.queue = errand.queue → ∀ position,
        isUnseenAt (drain.snapshot.queues drain.queue) position = true →
        isUnseenAt (errand.snapshot.queues errand.queue) position = true → False := by
    intro j hj errand hget' hqueue position hunseen hunseen'
    obtain ⟨errand', hget'', hseen⟩ := h.marked j hj
    obtain rfl : errand' = errand := Option.some.inj (hget''.symm.trans hget')
    have hfalse := (hseen position hunseen').isUnseenAt_eq
    rw [← hqueue, hfree position hunseen] at hfalse
    cases hfalse
  refine ⟨?_, ?_, ?_, ?_, ?_, ?_, h.once⟩
  · intro j errand hj
    exact (h.kept j errand ((herrand j).symm.trans hj)).trans hkept
  · intro j other hother
    rcases getElem?_setPhase_cases hother with ⟨rfl, rfl⟩ | ⟨hne, hsame⟩
    · refine ⟨fun _ _ hphase => (by cases hphase), fun done held hphase => ?_⟩
      cases hphase
      refine ⟨by simp, ⟨messages, hmessages, rfl⟩, fun handover hmem hdrain => ?_⟩
      exact absurd (hdrain ▸ (h.handed handover hmem).1) hnew
    · obtain ⟨htalking, hdelivering⟩ := h.fits j other hsame
      refine ⟨fun program tx hphase => ?_, fun done held hphase => ?_⟩
      · obtain ⟨hstage, hopen⟩ := htalking program tx hphase
        exact ⟨hstage, by simp [hopen, hne]⟩
      · obtain ⟨hcommitted, hmessages, hplaces⟩ := hdelivering done held hphase
        exact ⟨List.mem_append_left _ hcommitted, hmessages, hplaces⟩
  · intro j hj
    rcases List.mem_append.1 hj with hj | hj
    · obtain ⟨errand, hget', hseen⟩ := h.marked j hj
      exact ⟨errand, (herrand j).trans hget', fun position hunseen =>
        hkept.seenAt (hseen position hunseen)⟩
    · obtain rfl := List.mem_singleton.1 hj
      exact ⟨drain.toErrand, (herrand j).trans (errand?_eq hget), fun position hunseen =>
        Memory.seenAt_markedSince time drain.queue hfree hunseen⟩
  · exact List.nodup_append.2 ⟨h.nodup, by simp, by simp; rintro j hj rfl; exact hnew hj⟩
  · intro j hj k hk errand errand' hgetj hgetk hqueue position hunseen hunseen'
    have hgetj' := (herrand j).symm.trans hgetj
    have hgetk' := (herrand k).symm.trans hgetk
    rcases List.mem_append.1 hj with hold | hlast <;> rcases List.mem_append.1 hk with hold' | hlast'
    · exact h.apart j hold k hold' errand errand' hgetj' hgetk' hqueue position hunseen hunseen'
    · obtain rfl := List.mem_singleton.1 hlast'
      obtain rfl : drain.toErrand = errand' := Option.some.inj ((errand?_eq hget).symm.trans hgetk')
      exact (hdistinct j hold errand hgetj' hqueue.symm position hunseen' hunseen).elim
    · obtain rfl := List.mem_singleton.1 hlast
      obtain rfl : drain.toErrand = errand := Option.some.inj ((errand?_eq hget).symm.trans hgetj')
      exact (hdistinct k hold' errand' hgetk' hqueue position hunseen hunseen').elim
    · rw [List.mem_singleton.1 hlast, List.mem_singleton.1 hlast']
  · intro handover hmem
    obtain ⟨hdrain, errand, messages', hget', hrest⟩ := h.handed handover hmem
    exact ⟨List.mem_append_left _ hdrain, errand, messages', (herrand _).trans hget', hrest⟩

/-- Handing over the next message keeps the invariant. -/
theorem handOver (h : office.Sound) (hget : office.drains[i]? = some drain) {done : Nat}
    {message : Message} {rest : List Message}
    (hphase : drain.phase = .delivering done (message :: rest)) {phase : Phase}
    (hnext : phase = .ended ∨ phase = .delivering (done + 1) rest) :
    Sound { office.setPhase i drain phase with
      handed := office.handed ++ [⟨i, done, message⟩] } := by
  obtain ⟨hcommitted, ⟨messages, hmessages, hheld⟩, hplaces⟩ :=
    (h.fits i drain hget).delivering done _ hphase
  have herrand := errand?_setPhase hget phase
  have hrest : rest = messages.drop (done + 1) := by
    rw [← List.tail_drop, ← hheld, List.tail_cons]
  have hmessage : messages[done]? = some message := by
    rw [← List.head?_drop, ← hheld, List.head?_cons]
  refine ⟨?_, ?_, ?_, h.nodup, ?_, ?_, ?_⟩
  · exact fun j errand hj => h.kept j errand ((herrand j).symm.trans hj)
  · intro j other hother
    rcases getElem?_setPhase_cases hother with ⟨rfl, rfl⟩ | ⟨hne, hsame⟩
    · refine ⟨fun program tx hnow => ?_, fun done' held hnow => ?_⟩
      · rcases hnext with rfl | rfl <;> cases hnow
      · rcases hnext with rfl | rfl
        · cases hnow
        · cases hnow
          refine ⟨hcommitted, ⟨messages, hmessages, hrest⟩, fun handover hmem hdrain => ?_⟩
          rcases List.mem_append.1 hmem with hmem | hmem
          · exact Nat.lt_succ_of_lt (hplaces handover hmem hdrain)
          · obtain rfl := List.mem_singleton.1 hmem
            exact Nat.lt_succ_self done
    · obtain ⟨htalking, hdelivering⟩ := h.fits j other hsame
      refine ⟨htalking, fun done' held hnow => ?_⟩
      obtain ⟨hin, hmessages', hplaces'⟩ := hdelivering done' held hnow
      refine ⟨hin, hmessages', fun handover hmem hdrain => ?_⟩
      rcases List.mem_append.1 hmem with hmem | hmem
      · exact hplaces' handover hmem hdrain
      · obtain rfl := List.mem_singleton.1 hmem
        exact absurd hdrain.symm hne
  · intro j hj
    obtain ⟨errand, hget', hseen⟩ := h.marked j hj
    exact ⟨errand, (herrand j).trans hget', hseen⟩
  · intro j hj k hk errand errand' hgetj hgetk
    exact h.apart j hj k hk errand errand' ((herrand j).symm.trans hgetj)
      ((herrand k).symm.trans hgetk)
  · intro handover hmem
    rcases List.mem_append.1 hmem with hmem | hmem
    · obtain ⟨hdrain, errand, messages', hget', hmessages'⟩ := h.handed handover hmem
      exact ⟨hdrain, errand, messages', (herrand _).trans hget', hmessages'⟩
    · obtain rfl := List.mem_singleton.1 hmem
      exact ⟨hcommitted, drain.toErrand, messages, (herrand i).trans (errand?_eq hget), hmessages,
        hmessage⟩
  · have hnew : (i, done) ∉
        office.handed.map fun handover => (handover.drain, handover.place) := by
      intro hmem
      obtain ⟨handover, hmem, hsame⟩ := List.mem_map.1 hmem
      obtain ⟨hdrain, hplace⟩ := Prod.mk.inj hsame
      have := hplaces handover hmem hdrain
      omega
    rw [List.map_append]
    refine List.nodup_append.2 ⟨h.once, List.nodup_singleton _, fun a ha b hb hab => ?_⟩
    obtain rfl : b = (i, done) := List.mem_singleton.1 hb
    exact hnew (hab ▸ ha)

/-- A drain that begins keeps the invariant. -/
theorem start (h : office.Sound) (queue : Queue) (templates : Templates) (base : String) :
    (office.step (.begin queue templates base)).Sound := by
  have hcases : ∀ i drain, (office.step (.begin queue templates base)).drains[i]? = some drain →
      office.drains[i]? = some drain ∨
      (i = office.drains.length ∧ drain = Drain.start queue templates base office.shared) := by
    intro i drain hget
    simp only [Office.step, List.getElem?_append, List.getElem?_singleton] at hget
    split at hget
    · exact Or.inl hget
    · split at hget
      · exact Or.inr ⟨by omega, (Option.some.inj hget).symm⟩
      · cases hget
  refine h.frame rfl rfl (Kept.refl _) ?_ ?_ ?_
  · intro i errand hget
    obtain ⟨drain, hdrain, rfl⟩ := Option.map_eq_some_iff.1 hget
    have hlt := (List.getElem?_eq_some_iff.1 hdrain).1
    rw [errand?, Office.step, List.getElem?_append_left hlt, hdrain, Option.map_some]
  · intro i errand hget
    obtain ⟨drain, hdrain, rfl⟩ := Option.map_eq_some_iff.1 hget
    rcases hcases i drain hdrain with hold | ⟨-, rfl⟩
    · exact h.kept i _ (errand?_eq hold)
    · exact Kept.refl _
  · intro i drain hdrain
    rcases hcases i drain hdrain with hold | ⟨rfl, rfl⟩
    · exact h.fits i drain hold
    · refine ⟨fun program tx hphase => ?_, fun done held hphase => (by cases hphase)⟩
      cases hphase
      refine ⟨.selecting, fun hcommitted => ?_⟩
      obtain ⟨errand, hget, -⟩ := h.marked _ hcommitted
      simp [errand?] at hget

/-- Whatever happens keeps the invariant. -/
theorem step (h : office.Sound) (event : Event) : (office.step event).Sound := by
  cases event with
  | begin queue templates base => exact h.start queue templates base
  | advance i now =>
    rcases h.advance_cases i now with hsame | ⟨drain, phase, hget, hopen, hphase, hstep⟩ |
      ⟨drain, messages, time, hget, hopen, hmessages, hfree, hstep⟩
    · rw [hsame]
      exact h
    · rw [hstep]
      refine h.setPhase hget ⟨fun program tx hnow => ?_, fun done held hnow => ?_⟩
      · rcases hphase with rfl | ⟨program', tx', rfl, hstage⟩
        · cases hnow
        · cases hnow
          exact ⟨hstage, hopen⟩
      · rcases hphase with rfl | ⟨program', tx', rfl, hstage⟩ <;> cases hnow
    · rw [hstep]
      exact h.commit hget hopen hmessages time hfree
  | deliver i delivery =>
    rcases deliver_cases office i delivery with
      hsame | ⟨drain, done, message, rest, phase, hget, hphase, hnext, hstep⟩
    · rw [hsame]
      exact h
    · rw [hstep]
      exact h.handOver hget hphase hnext
  | enqueue queue row =>
    have hkept := Memory.kept_enqueue office.shared queue row
    exact h.frame rfl rfl hkept (fun _ _ hget => hget)
      (fun i errand hget => (h.kept i errand hget).trans hkept) h.fits

theorem run (h : office.Sound) (events : List Event) : (office.run events).Sound := by
  induction events generalizing office with
  | nil => exact h
  | cons event rest ih => exact ih (h.step event)

end Sound

/-! ## Rows -/

/-- The queue and the position of the row whose message was handed over. -/
def rowOf (office : Office) (handover : Handover) : Option (Queue × Nat) := do
  let errand ← office.errand? handover.drain
  let entry ← (selectedRows (errand.snapshot.queues errand.queue))[handover.place]?
  return (errand.queue, entry.2)

/-- The row behind a handover: the drain that committed had it in its snapshot, unseen, and what was
handed over is its message. -/
theorem Sound.rowOf_eq (h : office.Sound) {handover : Handover} (hmem : handover ∈ office.handed) :
    ∃ errand row position, office.errand? handover.drain = some errand ∧
      (selectedRows (errand.snapshot.queues errand.queue))[handover.place]? = some (row, position) ∧
      office.rowOf handover = some (errand.queue, position) ∧
      (errand.snapshot.queues errand.queue)[position]? = some row ∧ row.seen = false ∧
      row.item.message errand.templates errand.base = .ok handover.message := by
  obtain ⟨-, errand, messages, hget, hmessages, hplace⟩ := h.handed handover hmem
  have hitem := congrArg (fun list => list[handover.place]?) hmessages
  simp only [Memory.selected_eq, List.getElem?_map, hplace, Option.map_some,
    Option.map_eq_some_iff] at hitem
  obtain ⟨item, ⟨⟨row, position⟩, hrow, rfl⟩, hmessage⟩ := hitem
  obtain ⟨hsnapshot, hunseen⟩ := Memory.getElem?_of_mem_selectedRows (List.mem_of_getElem? hrow)
  refine ⟨errand, row, position, hget, hrow, ?_, hsnapshot, hunseen, hmessage⟩
  simp [rowOf, hget, hrow]

/-- **No row twice**: the rows behind two handovers are different. -/
theorem Sound.nodup_rowOf (h : office.Sound) : (office.handed.map office.rowOf).Nodup := by
  refine List.Nodup.map_on ?_ h.once.of_map
  intro one hone other hother hsame
  obtain ⟨errand, row, position, hget, hrow, hrowOf, hsnapshot, hunseen, -⟩ := h.rowOf_eq hone
  obtain ⟨errand', row', position', hget', hrow', hrowOf', hsnapshot', hunseen', -⟩ :=
    h.rowOf_eq hother
  rw [hrowOf, hrowOf', Option.some.injEq, Prod.mk.injEq] at hsame
  obtain ⟨hqueue, rfl⟩ := hsame
  have hdrain : one.drain = other.drain :=
    h.apart _ (h.handed one hone).1 _ (h.handed other hother).1 errand errand' hget hget' hqueue
      position (Memory.isUnseenAt_iff.2 ⟨row, hsnapshot, hunseen⟩)
      (Memory.isUnseenAt_iff.2 ⟨row', hsnapshot', hunseen'⟩)
  obtain rfl : errand = errand' := by
    rw [hdrain, hget'] at hget
    exact (Option.some.inj hget).symm
  have hplace : one.place = other.place := by
    have hnodup := Memory.nodup_selectedRows (errand.snapshot.queues errand.queue)
    have hpositions : ((selectedRows (errand.snapshot.queues errand.queue)).map Prod.snd)[one.place]? =
        ((selectedRows (errand.snapshot.queues errand.queue)).map Prod.snd)[other.place]? := by
      simp [hrow, hrow']
    refine (List.getElem?_inj ?_ hnodup).1 hpositions
    simpa using (List.getElem?_eq_some_iff.1 hrow).1
  exact List.inj_on_of_nodup_map h.once hone hother (by rw [hdrain, hplace])

/-! ## Whole histories -/

/-- **What a step does to the shared state**: nothing, or it adds a row to a queue, or it is the commit
of a drain whose unseen rows nobody has seen since. -/
theorem Sound.shared_cases (h : office.Sound) (event : Event) :
    (office.step event).shared = office.shared ∨
    (∃ queue row, (office.step event).shared = office.shared.enqueue queue row) ∨
    (∃ i errand time, office.errand? i = some errand ∧
      (∀ position, isUnseenAt (errand.snapshot.queues errand.queue) position = true →
        isUnseenAt (office.shared.queues errand.queue) position = true) ∧
      (office.step event).committed = office.committed ++ [i] ∧
      (office.step event).shared =
        markedSince time errand.queue errand.snapshot office.shared) := by
  cases event with
  | begin queue templates base => exact Or.inl rfl
  | advance i now =>
    rcases h.advance_cases i now with hsame | ⟨drain, phase, hget, hopen, hphase, hstep⟩ |
      ⟨drain, messages, time, hget, hopen, hmessages, hfree, hstep⟩
    · exact Or.inl (by rw [hsame])
    · exact Or.inl (by rw [hstep]; rfl)
    · rw [hstep]
      exact Or.inr (Or.inr ⟨i, drain.toErrand, time, errand?_eq hget, hfree, rfl, rfl⟩)
  | deliver i delivery =>
    rcases deliver_cases office i delivery with
      hsame | ⟨drain, done, message, rest, phase, hget, hphase, hnext, hstep⟩
    · exact Or.inl (by rw [hsame])
    · exact Or.inl (by rw [hstep]; rfl)
  | enqueue queue row => exact Or.inr (Or.inl ⟨queue, row, rfl⟩)

theorem Sound.kept_step (h : office.Sound) (event : Event) :
    Kept office.shared (office.step event).shared := by
  rcases h.shared_cases event with hsame | ⟨queue, row, henqueue⟩ |
    ⟨i, errand, time, -, hfree, -, hmarked⟩
  · rw [hsame]
    exact Kept.refl _
  · rw [henqueue]
    exact Memory.kept_enqueue _ _ _
  · rw [hmarked]
    exact Memory.kept_markedSince time errand.queue hfree

/-- A step that marks a row is the commit of a drain in whose snapshot the row was unseen. -/
theorem Sound.marked_step (h : office.Sound) (event : Event) {queue : Queue} {position : Nat}
    (hunseen : isUnseenAt (office.shared.queues queue) position = true)
    (hseen : SeenAt ((office.step event).shared.queues queue) position) :
    ∃ i errand, (office.step event).committed = office.committed ++ [i] ∧
      office.errand? i = some errand ∧ errand.queue = queue ∧
      isUnseenAt (errand.snapshot.queues queue) position = true := by
  have hfalse := hseen.isUnseenAt_eq
  rcases h.shared_cases event with hsame | ⟨other, new, henqueue⟩ |
    ⟨i, errand, time, hget, hfree, hcommitted, hmarked⟩
  · rw [hsame, hunseen] at hfalse
    cases hfalse
  · obtain ⟨row, hrow, hunseenRow⟩ := Memory.isUnseenAt_iff.1 hunseen
    have hsame := Memory.getElem?_enqueue hrow other new
    rw [henqueue, Memory.isUnseenAt_iff.2 ⟨row, hsame, hunseenRow⟩] at hfalse
    cases hfalse
  · rw [hmarked] at hfalse
    obtain ⟨rfl, hbase⟩ := Memory.unseen_of_markedSince time errand.queue hunseen hfalse
    exact ⟨i, errand, hcommitted, hget, rfl, hbase⟩

theorem Sound.kept_run (h : office.Sound) (events : List Event) :
    Kept office.shared (office.run events).shared := by
  induction events generalizing office with
  | nil => exact Kept.refl _
  | cons event rest ih => exact (h.kept_step event).trans (ih (h.step event))

/-- What a drain is about does not change. -/
theorem errand?_step (h : office.Sound) {errand : Errand} (hget : office.errand? i = some errand)
    (event : Event) : (office.step event).errand? i = some errand := by
  cases event with
  | begin queue templates base =>
    obtain ⟨drain, hdrain, rfl⟩ := Option.map_eq_some_iff.1 hget
    have hlt := (List.getElem?_eq_some_iff.1 hdrain).1
    rw [errand?, step, List.getElem?_append_left hlt, hdrain, Option.map_some]
  | advance j now =>
    rcases h.advance_cases j now with hsame | ⟨drain, phase, hdrain, -, -, hstep⟩ |
      ⟨drain, messages, time, hdrain, -, -, -, hstep⟩
    · rwa [hsame]
    · rw [hstep]
      exact (errand?_setPhase hdrain phase i).trans hget
    · rw [hstep]
      exact (errand?_setPhase hdrain (.delivering 0 messages) i).trans hget
  | deliver j delivery =>
    rcases deliver_cases office j delivery with
      hsame | ⟨drain, done, message, rest, phase, hdrain, -, -, hstep⟩
    · rwa [hsame]
    · rw [hstep]
      exact (errand?_setPhase hdrain phase i).trans hget
  | enqueue queue row => exact hget

theorem errand?_run (h : office.Sound) {errand : Errand} (hget : office.errand? i = some errand)
    (events : List Event) : (office.run events).errand? i = some errand := by
  induction events generalizing office with
  | nil => exact hget
  | cons event rest ih => exact ih (h.step event) (errand?_step h hget event)

/-- **What a step hands over**: nothing, or the message of a row that has been seen before. -/
theorem Sound.step_handed (h : office.Sound) (event : Event) :
    (office.step event).handed = office.handed ∨
    ∃ handover queue position, (office.step event).handed = office.handed ++ [handover] ∧
      (office.step event).rowOf handover = some (queue, position) ∧
      SeenAt (office.shared.queues queue) position := by
  cases event with
  | begin queue templates base => exact Or.inl rfl
  | advance i now =>
    rcases h.advance_cases i now with hsame | ⟨drain, phase, -, -, -, hstep⟩ |
      ⟨drain, messages, time, -, -, -, -, hstep⟩
    · exact Or.inl (by rw [hsame])
    · exact Or.inl (by rw [hstep]; rfl)
    · exact Or.inl (by rw [hstep]; rfl)
  | deliver i delivery =>
    rcases deliver_cases office i delivery with
      hsame | ⟨drain, done, message, rest, phase, hget, hphase, hnext, hstep⟩
    · exact Or.inl (by rw [hsame])
    · have hnew : ⟨i, done, message⟩ ∈ (office.step (.deliver i delivery)).handed := by
        rw [hstep]
        exact List.mem_append_right _ List.mem_cons_self
      obtain ⟨errand, row, position, hafter, -, hrowOf, hrow, hunseen, -⟩ :=
        (h.step (.deliver i delivery)).rowOf_eq hnew
      have hcommitted := ((h.fits i drain hget).delivering done _ hphase).1
      obtain ⟨errand', hbefore, hseen⟩ := h.marked i hcommitted
      obtain rfl : errand' = errand :=
        Option.some.inj ((errand?_step h hbefore (.deliver i delivery)).symm.trans hafter)
      refine Or.inr ⟨⟨i, done, message⟩, errand'.queue, position, ?_, hrowOf, ?_⟩
      · rw [hstep]
      · exact hseen position (Memory.isUnseenAt_iff.2 ⟨row, hrow, hunseen⟩)
  | enqueue queue row => exact Or.inl rfl

theorem rowOf_run (h : office.Sound) {handover : Handover} {row : Queue × Nat}
    (hrow : office.rowOf handover = some row) (events : List Event) :
    (office.run events).rowOf handover = some row := by
  simp only [rowOf, Option.bind_eq_bind, Option.bind_eq_some_iff] at hrow ⊢
  obtain ⟨errand, hget, hrest⟩ := hrow
  exact ⟨errand, errand?_run h hget events, hrest⟩

/-- The office after some events, none of whose drains began before them. -/
def after (start : State) (events : List Event) : Office := run { shared := start } events

end Office

open Office (after)

/-- In a history of drains every row is told at most once. -/
structure AtMostOnce (start : State) (events : List Event) : Prop where
  /-- No two messages in the hands of mailers are of one row. -/
  once : ((after start events).handed.map (after start events).rowOf).Nodup
  /-- Every one of them is the message of a row that its drain found unseen. -/
  told : ∀ handover ∈ (after start events).handed,
    ∃ (errand : Errand) (row : QueueRow) (position : Nat),
    (after start events).errand? handover.drain = some errand ∧
    (after start events).rowOf handover = some (errand.queue, position) ∧
    (errand.snapshot.queues errand.queue)[position]? = some row ∧ row.seen = false ∧
    row.item.message errand.templates errand.base = .ok handover.message
  /-- When it is handed over, the row has been seen in the shared state. -/
  seenFirst : ∀ before event later, events = before ++ event :: later →
    (after start (before ++ [event])).handed = (after start before).handed ∨
    ∃ handover queue position,
      (after start (before ++ [event])).handed = (after start before).handed ++ [handover] ∧
      (after start events).rowOf handover = some (queue, position) ∧
      SeenAt ((after start before).shared.queues queue) position
  /-- A row that has been seen stays where it is and as it is. -/
  lasting : ∀ before later, events = before ++ later →
    ∀ (queue : Queue) (position : Nat) (row : QueueRow),
      ((after start before).shared.queues queue)[position]? = some row → row.seen = true →
        ((after start events).shared.queues queue)[position]? = some row
  /-- What marks a row is the commit of a drain that found it unseen. -/
  marked : ∀ before event later, events = before ++ event :: later → ∀ queue position,
    isUnseenAt ((after start before).shared.queues queue) position = true →
    SeenAt ((after start (before ++ [event])).shared.queues queue) position →
    ∃ i errand, (after start (before ++ [event])).committed =
        (after start before).committed ++ [i] ∧
      (after start events).errand? i = some errand ∧ errand.queue = queue ∧
      isUnseenAt (errand.snapshot.queues queue) position = true
  /-- A committed drain has marked every row that it found unseen, and no other one found it so. -/
  single : (after start events).committed.Nodup ∧
    ∀ i ∈ (after start events).committed, ∃ errand, (after start events).errand? i = some errand ∧
      ∀ position, isUnseenAt (errand.snapshot.queues errand.queue) position = true →
        SeenAt ((after start events).shared.queues errand.queue) position ∧
        ∀ j ∈ (after start events).committed, ∀ errand',
          (after start events).errand? j = some errand' → errand'.queue = errand.queue →
            isUnseenAt (errand'.snapshot.queues errand'.queue) position = true → j = i

/-- **At most once**: whatever the order in which drains begin, select, mark, commit and deliver,
whatever the mailers do and whoever adds rows in between. -/
theorem atMostOnce_run (start : State) (events : List Event) : AtMostOnce start events := by
  have hstart := Office.sound_start start
  have hsound : ∀ some, (after start some).Sound := fun some => hstart.run some
  have hstep : ∀ before event, after start (before ++ [event]) = (after start before).step event :=
    fun before event => Office.run_append _ _ _
  have hsplit : ∀ {before event later}, events = before ++ event :: later →
      after start events = ((after start before).step event).run later := by
    rintro before event later rfl
    exact Office.run_append _ _ _
  refine ⟨(hsound events).nodup_rowOf, ?_, ?_, ?_, ?_, (hsound events).nodup, ?_⟩
  · intro handover hmem
    obtain ⟨errand, row, position, hget, -, hrest⟩ := (hsound events).rowOf_eq hmem
    exact ⟨errand, row, position, hget, hrest⟩
  · intro before event later hevents
    rw [hstep, hsplit hevents]
    refine ((hsound before).step_handed event).imp_right ?_
    rintro ⟨handover, queue, position, hhanded, hrow, hseen⟩
    exact ⟨handover, queue, position, hhanded,
      Office.rowOf_run ((hsound before).step event) hrow later, hseen⟩
  · rintro before later rfl queue position row hrow hseen
    have hkept := (hsound before).kept_run later
    obtain ⟨same, hsame, -, hunchanged⟩ := hkept queue position row hrow
    rw [hunchanged hseen] at hsame
    rw [after, Office.run_append]
    exact hsame
  · intro before event later hevents queue position hunseen hseen
    rw [hstep] at hseen ⊢
    rw [hsplit hevents]
    obtain ⟨i, errand, hcommitted, hget, hrest⟩ :=
      (hsound before).marked_step event hunseen hseen
    have hget' := Office.errand?_step (hsound before) hget event
    exact ⟨i, errand, hcommitted,
      Office.errand?_run ((hsound before).step event) hget' later, hrest⟩
  · intro i hi
    obtain ⟨errand, hget, hseen⟩ := (hsound events).marked i hi
    refine ⟨errand, hget, fun position hunseen => ⟨hseen position hunseen, ?_⟩⟩
    intro j hj errand' hget' hqueue hunseen'
    exact (hsound events).apart j hj i hi errand' errand hget' hget hqueue position hunseen' hunseen

end Registrar.Mail
