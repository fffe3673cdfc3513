import Registrar.Proofs.Memory.Queues
/-!
# Rows that are to be told

A row of a queue is pending if nobody has seen it and, should it subscribe a user to a course, nobody
has seen another subscription of the user to the course either. This module says so of the rows alone
and shows that the items of the pending rows are the items that a transaction selects
(`selected_eq_pending`).
-/
namespace Registrar.Memory

variable {rows : List QueueRow} {position : Nat}

/-! ## Unseen rows -/

/-- There is a row at a position, and nobody has seen it. -/
def UnseenAt (rows : List QueueRow) (position : Nat) : Prop :=
  ∃ row, rows[position]? = some row ∧ row.seenAt = none

namespace QueueRow

theorem seen_eq_false_iff {row : QueueRow} : row.seen = false ↔ row.seenAt = none := by
  simp [seen]

theorem mark_eq (now : Time.Instant) (row : QueueRow) :
    row.mark now = { row with seenAt := some (row.seenAt.getD now) } := by
  obtain ⟨item, seenAt⟩ := row
  cases seenAt <;> rfl

end QueueRow

theorem isUnseenAt_eq_true_iff : isUnseenAt rows position = true ↔ UnseenAt rows position := by
  simp only [isUnseenAt_iff, QueueRow.seen_eq_false_iff, UnseenAt]

theorem isUnseenAt_eq_false_iff : isUnseenAt rows position = false ↔ ¬UnseenAt rows position := by
  rw [← isUnseenAt_eq_true_iff, Bool.not_eq_true]

/-- A row that was there and is unseen has always been unseen. -/
theorem Kept.unseen_of_unseen {old new : State} (h : Kept old new) {queue : Mail.Queue}
    {row : QueueRow} (hrow : (old.queues queue)[position]? = some row)
    (hunseen : UnseenAt (new.queues queue) position) : row.seenAt = none := by
  obtain ⟨later, hlater, hunseen⟩ := hunseen
  obtain ⟨later', hlater', -, hsame⟩ := h queue position row hrow
  obtain rfl : later = later' := by simpa [hlater] using hlater'
  rw [← QueueRow.seen_eq_false_iff, ← Bool.not_eq_true]
  intro hseen
  rw [hsame hseen] at hunseen
  rw [QueueRow.seen, hunseen] at hseen
  cases hseen

theorem State.unseenCount_eq (state : State) (queue : Mail.Queue) :
    state.unseenCount queue = (state.queues queue).countP fun row => row.seenAt = none := by
  rw [State.unseenCount, ← List.countP_eq_length_filter]
  refine List.countP_congr fun row _ => ?_
  simp [QueueRow.seen]

/-- From `state` to `final`, a queue has been marked as a transaction does that saw it in `base`. -/
structure Marked (now : Time.Instant) (queue : Mail.Queue) (base state final : State) : Prop where
  /-- Rows that nobody had seen in `base` were still the same, and are marked. -/
  unseen : ∀ (position : Nat) (row : QueueRow), (base.queues queue)[position]? = some row →
    row.seenAt = none → (state.queues queue)[position]? = some row ∧
      (final.queues queue)[position]? = some { row with seenAt := some now }
  /-- No other row has changed: none that had been seen, none that came later. -/
  seen : ∀ position : Nat, ¬UnseenAt (base.queues queue) position →
    (final.queues queue)[position]? = (state.queues queue)[position]?
  others : ∀ other ≠ queue, final.queues other = state.queues other
  rest : { final with queues := state.queues } = state

theorem marked_markedSince (now : Time.Instant) {queue : Mail.Queue} {base state : State}
    (h : ∀ (position : Nat) (row : QueueRow), (base.queues queue)[position]? = some row →
      row.seenAt = none → (state.queues queue)[position]? = some row) :
    Marked now queue base state (markedSince now queue base state) where
  unseen position row hrow hunseen := by
    have hsame := h position row hrow hunseen
    refine ⟨hsame, ?_⟩
    rw [queues_markedSince, if_pos rfl, hsame, Option.map_some,
      if_pos (isUnseenAt_eq_true_iff.2 ⟨row, hrow, hunseen⟩)]
  seen position hseen := by
    rw [queues_markedSince, if_pos rfl, isUnseenAt_eq_false_iff.2 hseen]
    exact Option.map_id_apply
  others other hother := List.ext_getElem? fun position => by
    rw [queues_markedSince, if_neg hother]
  rest := rfl

/-! ## Pending rows -/

namespace QueueRow

/-- Both rows subscribe one user to one course, whatever the letter case of its code. -/
def SamePair (row other : QueueRow) : Prop :=
  ∃ mine theirs, row.item = .subscribed mine ∧ other.item = .subscribed theirs ∧
    mine.userId = theirs.userId ∧ Text.lower mine.courseCode = Text.lower theirs.courseCode

theorem samePair_iff {row other : QueueRow} :
    row.SamePair other ↔ ∃ pair, courseKey? row = some pair ∧ courseKey? other = some pair := by
  obtain ⟨item, seenAt⟩ := row
  obtain ⟨item', seenAt'⟩ := other
  constructor
  · rintro ⟨mine, theirs, rfl, rfl, huser, hcode⟩
    exact ⟨(Text.lower theirs.courseCode, theirs.userId), by simp [courseKey?, huser, hcode], rfl⟩
  · rintro ⟨pair, hmine, htheirs⟩
    cases item <;> cases item' <;> simp only [courseKey?, reduceCtorEq, Option.some.injEq] at *
    case subscribed.subscribed mine theirs =>
      obtain ⟨hcode, huser⟩ := Prod.mk.injEq .. ▸ hmine.trans htheirs.symm
      exact ⟨mine, theirs, rfl, rfl, huser, hcode⟩

/-- Nobody has seen the row, or another row of its user and course. -/
def Pending (rows : List QueueRow) (row : QueueRow) : Prop :=
  row.seenAt = none ∧ ∀ other ∈ rows, row.SamePair other → other.seenAt = none

theorem pending_iff {row : QueueRow} :
    row.Pending rows ↔ (!row.seen && !notified rows row) = true := by
  have hsilent : notified rows row = false ↔
      ∀ other ∈ rows, row.SamePair other → other.seenAt = none := by
    cases hpair : courseKey? row with
    | none => simp [notified, samePair_iff, hpair]
    | some pair =>
      simp only [notified, samePair_iff, hpair, List.any_eq_false, Bool.and_eq_true, beq_iff_eq,
        not_and', Bool.not_eq_true, seen_eq_false_iff, Option.some.injEq, exists_eq_left']
  rw [Pending, ← hsilent, ← seen_eq_false_iff]
  simp

instance (rows : List QueueRow) (row : QueueRow) : Decidable (row.Pending rows) :=
  decidable_of_iff _ pending_iff.symm

end QueueRow

/-- The pending rows, in the order of the queue. -/
def pending (rows : List QueueRow) : List QueueRow := rows.filter (QueueRow.Pending rows)

/-- **What is selected** are the items of the pending rows. -/
theorem selected_eq_pending (rows : List QueueRow) :
    selected rows = (pending rows).map QueueRow.item := by
  rw [selected, pending]
  refine congrArg (List.map QueueRow.item) (List.filter_congr fun row _ => ?_)
  rw [Bool.eq_iff_iff, decide_eq_true_iff, QueueRow.pending_iff]

theorem exists_selected_iff {p : Mail.Item → Prop} :
    (∃ item ∈ selected rows, p item) ↔ ∃ row ∈ pending rows, p row.item := by
  simp only [selected_eq_pending, List.mem_map, exists_exists_and_eq_and]

theorem pending_of_seen (h : ∀ row ∈ rows, row.seenAt ≠ none) : pending rows = [] :=
  List.filter_eq_nil_iff.2 fun row hrow hpending =>
    h row hrow (decide_eq_true_iff.1 hpending).1

end Registrar.Memory
