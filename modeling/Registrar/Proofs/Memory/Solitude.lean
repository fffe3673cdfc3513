import Registrar.Proofs.Memory.Conversation
import Registrar.Proofs.Memory.Queues
/-!
# Transactions that nobody disturbs

A commit fails only where another transaction has been in the way. A transaction that is `Alone`
with the state at its begin marks no row that was seen then, so its commit succeeds (`Alone.commit`).
Hence a task in a transaction of its own succeeds exactly if the task itself does, and fails with the
failure of the task (`transact_eq`).
-/
namespace Registrar.Memory

open Warehouse (Mode Request)

/-- The transaction began at `base`, remembers what it wrote since, and marked only rows that nobody
had seen then. -/
structure Alone (base : State) (tx : Transaction) : Prop extends Follows base tx where
  unseen : ∀ queue position, isUnseenAt (tx.work.queues queue) position = true →
    isUnseenAt (base.queues queue) position = true
  marked : ∀ queue, ∀ position ∈ tx.marked queue, isUnseenAt (base.queues queue) position = true

theorem alone_begin (base : State) : Alone base (begin base) where
  toFollows := follows_begin base
  unseen _ _ h := h
  marked queue position h := by cases h

theorem QueueRow.seen_mark (now : Time.Instant) (row : QueueRow) : (row.mark now).seen = true := by
  unfold mark
  split
  · assumption
  · rfl

/-- Nobody finds an unseen row in a queue that is marked. -/
theorem isUnseenAt_map_mark (now : Time.Instant) (rows : List QueueRow) (position : Nat) :
    isUnseenAt (rows.map (QueueRow.mark now)) position = false := by
  rw [Bool.eq_false_iff]
  intro hunseen
  obtain ⟨marked, hmarked, hunseen⟩ := isUnseenAt_iff.1 hunseen
  rw [List.getElem?_map] at hmarked
  obtain ⟨row, -, rfl⟩ := Option.map_eq_some_iff.1 hmarked
  rw [QueueRow.seen_mark] at hunseen
  cases hunseen

namespace Alone

variable {base : State} {tx : Transaction} (now : Time.Instant)

theorem markSeen (h : Alone base tx) (queue : Mail.Queue) :
    Alone base (markSeen now queue tx).2 where
  toFollows := h.toFollows.answer now (.markSeen queue)
  unseen other position hunseen := by
    simp only [Memory.markSeen, State.queues_setQueue] at hunseen
    split at hunseen
    · rw [isUnseenAt_map_mark] at hunseen
      cases hunseen
    · exact h.unseen other position hunseen
  marked other position hmarked := by
    simp only [Memory.markSeen] at hmarked
    split at hmarked
    · rename_i hsame
      subst hsame
      rcases List.mem_append.1 hmarked with hold | hnew
      · exact h.marked other position hold
      · exact h.unseen other position (mem_unseenPositions_zero.1 hnew)
    · exact h.marked other position hmarked

theorem write (h : Alone base tx) (rows : Sql.Rows) : Alone base (tx.write rows) where
  toFollows := h.toFollows.write rows
  unseen := h.unseen
  marked := h.marked

theorem answer (h : Alone base tx) (request : Request) :
    Alone base (answer now request tx).2 := by
  cases request with
  | insert rows =>
    rw [answer_insert]
    split
    · exact h
    · exact h.write rows
  | copy rows =>
    rw [answer_copy]
    split
    · exact h
    · exact h.write rows
  | termDates => exact h
  | unseen queue => exact h
  | markSeen queue => exact h.markSeen now queue

theorem hold {σ α : Type} (h : Alone base tx) (program : Program σ α) :
    Alone base (hold now program tx).2.2 := by
  induction program generalizing tx with
  | done value state => exact h
  | fail cause state => exact h
  | ask request state next ih =>
    have hanswer := h.answer now request
    simp only [Memory.hold]
    revert hanswer
    rcases Memory.answer now request tx with ⟨_ | reply, tx⟩
    · exact id
    · exact fun hanswer => ih reply hanswer

theorem commit (h : Alone base tx) : commit tx base = (.ok (), publish tx base) := by
  rcases commit_cases tx base with ⟨cause, -, hconflict⟩ | ⟨hcommit, -⟩
  · exact absurd ⟨fun entry hentry => (h.written entry hentry).symm, h.marked⟩ hconflict
  · exact hcommit

end Alone

/-- **With nobody else at work** a task succeeds in a transaction of its own exactly if it succeeds,
and then what it wrote is published; if not, its failure is the result, and nothing has changed. -/
theorem transact_eq {σ α : Type} (now : Time.Instant) (mode : Mode) (task : Task σ α) (state : σ)
    (w : State) :
    (warehouse now).transact mode task state w =
      match perform now task state (begin w) with
      | (.ok value, state', tx) => (.ok value, state', publish tx w)
      | (.error cause, state', _) => (.error cause, state', w) := by
  have hbegin : (warehouse now).begin mode w = (.ok (begin w), w) := rfl
  have hcommit : (warehouse now).commit = commit := rfl
  have hrollback : ∀ tx, ((warehouse now).rollback tx w).2 = w := fun _ => rfl
  have halone := (alone_begin w).hold now (task state)
  simp only [Warehouse.transact, hbegin, hcommit, converse_eq_hold, perform]
  rcases hperform : hold now (task state) (begin w) with ⟨cause | value, state', tx⟩
  · simp only [hrollback]
  · rw [hperform] at halone
    simp only [halone.commit]

end Registrar.Memory
