import Mathlib.Data.List.Basic
import Registrar.Proofs.Memory.Commit
/-!
# Rows of queues

A row of a queue is named by its position. That is sound because positions are stable: whatever
happens to a state, a row stays where it is, with its item, and once it has been seen it does not
change at all (`Kept`). The reason is that a commit looks at every row that it is about to mark
(`kept_commit`).

A transaction that marks a queue right after its begin commits if and only if nobody has marked a row
that was unseen then, and it marks these rows and no others (`commit_marking`).
-/
namespace Registrar.Memory

/-! ## Unseen rows -/

theorem isUnseenAt_iff {rows : List QueueRow} {position : Nat} :
    isUnseenAt rows position = true ↔ ∃ row, rows[position]? = some row ∧ row.seen = false := by
  unfold isUnseenAt
  cases rows[position]? <;> simp

theorem mem_unseenPositions {rows : List QueueRow} : ∀ {start position : Nat},
    position ∈ unseenPositions start rows ↔
      start ≤ position ∧ isUnseenAt rows (position - start) = true := by
  induction rows with
  | nil => simp [unseenPositions, isUnseenAt]
  | cons row rest ih =>
    intro start position
    have hrest : position ∈ unseenPositions (start + 1) rest ↔
        start < position ∧ isUnseenAt (row :: rest) (position - start) = true := by
      rw [ih]
      refine and_congr_right fun hlt => ?_
      rw [show position - start = position - (start + 1) + 1 by omega]
      simp [isUnseenAt]
    have hfirst : isUnseenAt (row :: rest) 0 = !row.seen := by simp [isUnseenAt]
    rcases Nat.lt_trichotomy start position with hlt | rfl | hlt
    · have hle : start ≤ position := by omega
      have hne : position ≠ start := by omega
      simp only [unseenPositions]
      split <;> simp [hrest, hlt, hle, hne]
    · simp only [unseenPositions]
      split <;> simp_all
    · simp only [unseenPositions]
      split <;> simp [hrest] <;> omega

theorem mem_unseenPositions_zero {rows : List QueueRow} {position : Nat} :
    position ∈ unseenPositions 0 rows ↔ isUnseenAt rows position = true := by
  rw [mem_unseenPositions]
  simp

theorem length_unseenPositions (start : Nat) (rows : List QueueRow) :
    (unseenPositions start rows).length = (rows.filter fun row => !row.seen).length := by
  induction rows generalizing start with
  | nil => rfl
  | cons row rest ih =>
    simp only [unseenPositions]
    split <;> simp_all

/-- The row at a position is there and has been seen. -/
def SeenAt (rows : List QueueRow) (position : Nat) : Prop :=
  ∃ row, rows[position]? = some row ∧ row.seen = true

theorem SeenAt.isUnseenAt_eq {rows : List QueueRow} {position : Nat} (h : SeenAt rows position) :
    isUnseenAt rows position = false := by
  obtain ⟨row, hrow, hseen⟩ := h
  simp [isUnseenAt, hrow, hseen]

/-! ## Rows that are to be told -/

/-- The rows that are to be told, with their positions. -/
def selectedRows (rows : List QueueRow) : List (QueueRow × Nat) :=
  rows.zipIdx.filter fun entry => !entry.1.seen && !notified rows entry.1

theorem selected_eq (rows : List QueueRow) :
    selected rows = (selectedRows rows).map fun entry => entry.1.item := by
  have hfilter : ∀ (p : QueueRow → Bool) (start : Nat) (some : List QueueRow),
      some.filter p = ((some.zipIdx start).filter fun entry => p entry.1).map Prod.fst := by
    intro p start some
    induction some generalizing start with
    | nil => rfl
    | cons row rest ih =>
      cases h : p row <;> simp [List.zipIdx_cons, h, ← ih]
  simp only [selected, selectedRows, hfilter _ 0 rows, List.map_map]
  rfl

theorem getElem?_of_mem_selectedRows {rows : List QueueRow} {row : QueueRow} {position : Nat}
    (h : (row, position) ∈ selectedRows rows) :
    rows[position]? = some row ∧ row.seen = false := by
  obtain ⟨hmem, hselected⟩ := List.mem_filter.1 h
  simp only [Bool.and_eq_true, Bool.not_eq_true'] at hselected
  exact ⟨List.mem_zipIdx_iff_getElem?.1 hmem, hselected.1⟩

/-- No position is selected twice. -/
theorem nodup_selectedRows (rows : List QueueRow) : ((selectedRows rows).map Prod.snd).Nodup := by
  have hsub : ((selectedRows rows).map Prod.snd).Sublist (rows.zipIdx.map Prod.snd) :=
    List.filter_sublist.map _
  refine hsub.nodup ?_
  rw [List.zipIdx_map_snd]
  exact List.nodup_range'

/-- **`unseen`** fails exactly if one of the rows that are to be told has no address. -/
theorem unseen_cases (queue : Mail.Queue) (tx : Transaction) :
    ((∃ item ∈ selected (tx.work.queues queue), item.recipient = "") ∧
      ∃ cause, unseen queue tx = .error cause) ∨
    ((∀ item ∈ selected (tx.work.queues queue), item.recipient ≠ "") ∧
      unseen queue tx = .ok (selected (tx.work.queues queue))) := by
  simp only [unseen]
  split
  · rename_i hany
    simp only [List.any_eq_true, beq_iff_eq] at hany
    exact Or.inl ⟨hany, _, rfl⟩
  · rename_i hnone
    simp only [List.any_eq_true, beq_iff_eq, not_exists, not_and] at hnone
    exact Or.inr ⟨hnone, rfl⟩

/-! ## What never changes -/

/-- A row as it may be later: with the same item, and unchanged if it has been seen. -/
structure QueueRow.Kept (row later : QueueRow) : Prop where
  item : later.item = row.item
  seen : row.seen = true → later = row

/-- The rows of every queue of `old` are in `new` at the same positions. -/
def Kept (old new : State) : Prop :=
  ∀ (queue : Mail.Queue) (position : Nat) (row : QueueRow),
    (old.queues queue)[position]? = some row →
      ∃ later, (new.queues queue)[position]? = some later ∧ row.Kept later

namespace Kept

variable {old new newest : State}

theorem refl (state : State) : Kept state state :=
  fun _ _ row hrow => ⟨row, hrow, rfl, fun _ => rfl⟩

theorem trans (h : Kept old new) (h' : Kept new newest) : Kept old newest := by
  intro queue position row hrow
  obtain ⟨later, hlater, hitem, hseen⟩ := h queue position row hrow
  obtain ⟨last, hlast, hitem', hseen'⟩ := h' queue position later hlater
  refine ⟨last, hlast, hitem'.trans hitem, fun hrowSeen => ?_⟩
  have hsame := hseen hrowSeen
  rw [hseen' (hsame ▸ hrowSeen), hsame]

theorem seenAt (h : Kept old new) {queue : Mail.Queue} {position : Nat}
    (hseen : SeenAt (old.queues queue) position) : SeenAt (new.queues queue) position := by
  obtain ⟨row, hrow, hseen⟩ := hseen
  obtain ⟨later, hlater, -, hsame⟩ := h queue position row hrow
  exact ⟨row, hsame hseen ▸ hlater, hseen⟩

end Kept

/-- A new row comes behind the others. -/
theorem getElem?_enqueue {state : State} {queue : Mail.Queue} {position : Nat} {row : QueueRow}
    (h : (state.queues queue)[position]? = some row) (other : Mail.Queue) (new : QueueRow) :
    ((state.enqueue other new).queues queue)[position]? = some row := by
  rw [State.enqueue, State.queues_setQueue]
  split
  · rename_i hsame
    subst hsame
    rw [List.getElem?_append_left (List.getElem?_eq_some_iff.1 h).1, h]
  · exact h

theorem kept_enqueue (state : State) (queue : Mail.Queue) (row : QueueRow) :
    Kept state (state.enqueue queue row) :=
  fun _ _ old hold => ⟨old, getElem?_enqueue hold queue row, rfl, fun _ => rfl⟩

theorem getElem?_markAt (positions : List Nat) (mine rows : List QueueRow) (position : Nat) :
    (markAt positions mine rows)[position]? = rows[position]?.map fun row =>
      match mine[position]? with
      | some other => if position ∈ positions then { row with seenAt := other.seenAt } else row
      | none => row := by
  unfold markAt
  exact List.getElem?_mapIdx

/-- Publishing keeps the rows, since it changes none that has been seen. -/
theorem kept_publish {tx : Transaction} {state : State} (h : Unmarked tx state) :
    Kept state (publish tx state) := by
  intro queue position row hrow
  rw [queues_publish, getElem?_markAt, hrow]
  refine ⟨_, rfl, ?_⟩
  split
  · split
    · rename_i hmarked
      refine ⟨rfl, fun hseen => ?_⟩
      obtain ⟨same, hsame, hunseen⟩ := isUnseenAt_iff.1 (h queue position hmarked)
      rw [hrow, Option.some.injEq] at hsame
      rw [hsame, hunseen] at hseen
      cases hseen
    · exact ⟨rfl, fun _ => rfl⟩
  · exact ⟨rfl, fun _ => rfl⟩

/-- **Positions are stable**: no commit, whatever its transaction did, moves a row of a queue or
touches one that has been seen. -/
theorem kept_commit (tx : Transaction) (state : State) : Kept state (commit tx state).2 := by
  rcases commit_cases tx state with ⟨cause, hcommit, -⟩ | ⟨hcommit, -, hunmarked⟩
  · rw [hcommit]
    exact Kept.refl state
  · rw [hcommit]
    exact kept_publish hunmarked

/-! ## Marking a queue -/

variable (now : Time.Instant) (queue : Mail.Queue)

/-- The transaction that began at `base` and marked a queue. -/
def marking (base : State) : Transaction := (markSeen now queue (begin base)).2

/-- The state in which the rows of a queue that were unseen in `base` are marked. -/
def markedSince (base state : State) : State :=
  state.setQueue queue ((state.queues queue).mapIdx fun position row =>
    if isUnseenAt (base.queues queue) position then { row with seenAt := some now } else row)

theorem marked_marking (base : State) (other : Mail.Queue) :
    (marking now queue base).marked other =
      if other = queue then unseenPositions 0 (base.queues queue) else [] := rfl

theorem unmarked_marking_iff (base state : State) :
    Unmarked (marking now queue base) state ↔ ∀ position,
      isUnseenAt (base.queues queue) position = true →
        isUnseenAt (state.queues queue) position = true := by
  constructor
  · intro h position hunseen
    refine h queue position ?_
    rwa [marked_marking, if_pos rfl, mem_unseenPositions_zero]
  · intro h other position hmarked
    rw [marked_marking] at hmarked
    split at hmarked
    · rename_i hsame
      subst hsame
      exact h position (mem_unseenPositions_zero.1 hmarked)
    · cases hmarked

theorem getElem?_marking (base : State) {position : Nat}
    (h : isUnseenAt (base.queues queue) position = true) :
    ∃ row, ((marking now queue base).work.queues queue)[position]? = some row ∧
      row.seenAt = some now := by
  obtain ⟨row, hrow, hunseen⟩ := isUnseenAt_iff.1 h
  refine ⟨row.mark now, ?_, by simp [QueueRow.mark, hunseen]⟩
  have hwork : (marking now queue base).work.queues queue =
      (base.queues queue).map (QueueRow.mark now) := if_pos rfl
  rw [hwork, List.getElem?_map, hrow, Option.map_some]

theorem publish_marking (base state : State) :
    publish (marking now queue base) state = markedSince now queue base state := by
  have hqueues : (publish (marking now queue base) state).queues =
      (markedSince now queue base state).queues := by
    funext other
    rw [queues_publish, markedSince, State.queues_setQueue, marked_marking]
    split
    · rename_i hsame
      subst hsame
      refine List.ext_getElem? fun position => ?_
      rw [getElem?_markAt, List.getElem?_mapIdx]
      congr 1
      funext row
      by_cases hunseen : isUnseenAt (base.queues other) position = true
      · obtain ⟨mine, hmine, hseenAt⟩ := getElem?_marking now other base hunseen
        simp [hmine, mem_unseenPositions_zero, hunseen, hseenAt]
      · simp only [mem_unseenPositions_zero, hunseen]
        split <;> rfl
    · refine List.ext_getElem? fun position => ?_
      rw [getElem?_markAt]
      simp only [List.not_mem_nil, if_false]
      cases (state.queues other)[position]? <;> simp
      split <;> rfl
  simp only [publish] at hqueues ⊢
  rw [hqueues]
  rfl

theorem queues_markedSince (base state : State) (other : Mail.Queue) (position : Nat) :
    ((markedSince now queue base state).queues other)[position]? =
      if other = queue then
        (state.queues queue)[position]?.map fun row =>
          if isUnseenAt (base.queues queue) position then { row with seenAt := some now } else row
      else (state.queues other)[position]? := by
  rw [markedSince, State.queues_setQueue]
  split <;> simp [List.getElem?_mapIdx]

theorem kept_markedSince {base state : State}
    (h : ∀ position, isUnseenAt (base.queues queue) position = true →
      isUnseenAt (state.queues queue) position = true) :
    Kept state (markedSince now queue base state) := by
  rw [← publish_marking]
  exact kept_publish ((unmarked_marking_iff now queue base state).2 h)

/-- The marked rows have been seen. -/
theorem seenAt_markedSince {base state : State}
    (h : ∀ position, isUnseenAt (base.queues queue) position = true →
      isUnseenAt (state.queues queue) position = true) {position : Nat}
    (hunseen : isUnseenAt (base.queues queue) position = true) :
    SeenAt ((markedSince now queue base state).queues queue) position := by
  obtain ⟨row, hrow, -⟩ := isUnseenAt_iff.1 (h position hunseen)
  refine ⟨{ row with seenAt := some now }, ?_, rfl⟩
  rw [queues_markedSince, if_pos rfl, hrow, Option.map_some, if_pos hunseen]

/-- No other row changes. -/
theorem unseen_of_markedSince {base state : State} {other : Mail.Queue} {position : Nat}
    (hbefore : isUnseenAt (state.queues other) position = true)
    (hafter : isUnseenAt ((markedSince now queue base state).queues other) position = false) :
    other = queue ∧ isUnseenAt (base.queues queue) position = true := by
  obtain ⟨row, hrow, hunseen⟩ := isUnseenAt_iff.1 hbefore
  by_cases hqueue : other = queue
  · subst hqueue
    refine ⟨rfl, ?_⟩
    by_contra hbase
    have hsame : ((markedSince now other base state).queues other)[position]? = some row := by
      rw [queues_markedSince, if_pos rfl, hrow, Option.map_some, if_neg hbase]
    rw [isUnseenAt_iff.2 ⟨row, hsame, hunseen⟩] at hafter
    cases hafter
  · have hsame : ((markedSince now queue base state).queues other)[position]? = some row := by
      rw [queues_markedSince, if_neg hqueue, hrow]
    rw [isUnseenAt_iff.2 ⟨row, hsame, hunseen⟩] at hafter
    cases hafter

/-- **First marker wins**: a transaction that marked a queue right after its begin commits if the
rows that were unseen then still are, and marks these and no others; if not, it fails. -/
theorem commit_marking (base state : State) :
    ((∀ position, isUnseenAt (base.queues queue) position = true →
        isUnseenAt (state.queues queue) position = true) ∧
      commit (marking now queue base) state = (.ok (), markedSince now queue base state)) ∨
    ((∃ position, isUnseenAt (base.queues queue) position = true ∧
        isUnseenAt (state.queues queue) position = false) ∧
      ∃ cause, commit (marking now queue base) state = (.error cause, state)) := by
  have hwritten : Unwritten (marking now queue base) state := by
    intro entry hentry
    cases hentry
  rcases commit_cases (marking now queue base) state with
    ⟨cause, hcommit, hconflict⟩ | ⟨hcommit, -, hunmarked⟩
  · refine Or.inr ⟨?_, cause, hcommit⟩
    simp only [hwritten, true_and, unmarked_marking_iff, not_forall, Bool.not_eq_true] at hconflict
    obtain ⟨position, hunseen, hseen⟩ := hconflict
    exact ⟨position, hunseen, hseen⟩
  · exact Or.inl ⟨(unmarked_marking_iff now queue base state).1 hunmarked,
      hcommit.trans (by rw [publish_marking])⟩

end Registrar.Memory
