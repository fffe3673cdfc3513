import Registrar.Proofs.Memory.Commit
/-!
# Conversations with a transaction in memory

A transaction in memory looks at nothing but itself, so a conversation with one is a function of the
program, its state and the transaction (`perform`). `Yields` says that a task succeeds, with which
value, in which state and with which transaction; for a task made of others it comes apart into what
they yield (`yields_bind`).

A task in a transaction of its own either leaves no trace or yields, and then what it wrote is there
(`transact_cases`).
-/
namespace Registrar.Memory

open Warehouse (Mode Request)

variable {σ α β : Type} (now : Time.Instant)

/-- Holds a conversation with a transaction. -/
def hold : Program σ α → Transaction → Except Failure α × σ × Transaction
  | .done value state, tx => (.ok value, state, tx)
  | .fail cause state, tx => (.error cause, state, tx)
  | .ask request state next, tx =>
    match answer now request tx with
    | (.ok reply, tx) => hold (next reply) tx
    | (.error cause, tx) => (.error cause, state, tx)

/-- Does a task in a state and with a transaction. -/
def perform (task : Task σ α) (state : σ) (tx : Transaction) :
    Except Failure α × σ × Transaction :=
  hold now (task state) tx

theorem converse_eq_hold (program : Program σ α) (tx : Transaction) (w : State) :
    (warehouse now).converse program tx w =
      ⟨(hold now program tx).1, (hold now program tx).2.1, (hold now program tx).2.2, w⟩ := by
  induction program generalizing tx with
  | done value state => rfl
  | fail cause state => rfl
  | ask request state next ih =>
    have hanswer : (warehouse now).answer request tx w =
        ((answer now request tx).1, (answer now request tx).2, w) := rfl
    simp only [Warehouse.converse, hanswer, hold]
    rcases answer now request tx with ⟨_ | reply, tx⟩
    · rfl
    · exact ih reply tx

theorem hold_bind (program : Program σ α) (f : α → σ → Program σ β) (tx : Transaction) :
    hold now (program.bind f) tx =
      match hold now program tx with
      | (.ok value, state, tx) => hold now (f value state) tx
      | (.error cause, state, tx) => (.error cause, state, tx) := by
  induction program generalizing tx with
  | done value state => rfl
  | fail cause state => rfl
  | ask request state next ih =>
    simp only [Program.bind, hold]
    rcases answer now request tx with ⟨_ | reply, tx⟩
    · rfl
    · exact ih reply tx

/-! ## Tasks step by step -/

theorem perform_bind (task : Task σ α) (f : α → Task σ β) (state : σ) (tx : Transaction) :
    perform now (task >>= f) state tx =
      match perform now task state tx with
      | (.ok value, state, tx) => perform now (f value) state tx
      | (.error cause, state, tx) => (.error cause, state, tx) :=
  hold_bind now (task state) (fun value state => f value state) tx

theorem perform_ask (request : Request) (state : σ) (tx : Transaction) :
    perform now (Task.ask request) state tx =
      ((answer now request tx).1, state, (answer now request tx).2) := by
  simp only [perform, Task.ask, hold]
  rcases answer now request tx with ⟨_ | reply, tx⟩ <;> rfl

theorem perform_insert (rows : Sql.Rows) (state : σ) (tx : Transaction) :
    perform now (Task.ask (.insert rows)) state tx =
      if rows.table ∈ tx.work.failing then
        (.error (.warehouse s!"write to {rows.table} rejected"), state, tx)
      else (.ok (idsAfter (tx.work.table rows.table).lastId rows.rows.length), state,
        tx.write rows) := by
  refine (perform_ask now (.insert rows) state tx).trans ?_
  rw [answer_insert]
  split <;> rfl

theorem perform_copy (rows : Sql.Rows) (state : σ) (tx : Transaction) :
    perform now (Task.ask (.copy rows)) state tx =
      if rows.table ∈ tx.work.failing then
        (.error (.warehouse s!"write to {rows.table} rejected"), state, tx)
      else (.ok rows.rows.length, state, tx.write rows) := by
  refine (perform_ask now (.copy rows) state tx).trans ?_
  rw [answer_copy]
  split <;> rfl

/-- The task succeeds. -/
def Yields (task : Task σ α) (state : σ) (tx : Transaction) (value : α) (state' : σ)
    (tx' : Transaction) : Prop :=
  perform now task state tx = (.ok value, state', tx')

variable {state state' : σ} {tx tx' : Transaction}

theorem yields_bind (task : Task σ α) (f : α → Task σ β) (value : β) :
    Yields now (task >>= f) state tx value state' tx' ↔
      ∃ first middle through, Yields now task state tx first middle through ∧
        Yields now (f first) middle through value state' tx' := by
  unfold Yields
  rw [perform_bind]
  rcases perform now task state tx with ⟨_ | first, middle, through⟩
  · simp
  · constructor
    · exact fun h => ⟨first, middle, through, rfl, h⟩
    · rintro ⟨_, _, _, h, hrest⟩
      cases h
      exact hrest

theorem yields_pure (value value' : α) :
    Yields now (pure value : Task σ α) state tx value' state' tx' ↔
      value' = value ∧ state' = state ∧ tx' = tx := by
  have hpure : perform now (pure value : Task σ α) state tx = (.ok value, state, tx) := rfl
  simp only [Yields, hpure, Prod.mk.injEq, Except.ok.injEq, eq_comm]

/-- A task that fails or goes on without having changed anything. -/
theorem yields_lift_bind (result : Except Failure α) (f : α → Task σ β) (value : β) :
    Yields now (Task.lift result >>= f) state tx value state' tx' ↔
      ∃ first, result = .ok first ∧ Yields now (f first) state tx value state' tx' := by
  cases result with
  | error cause =>
    have hfail : perform now (Task.lift (.error cause) >>= f) state tx = (.error cause, state, tx) :=
      rfl
    simp [Yields, hfail]
  | ok first =>
    have hdone : perform now (Task.lift (.ok first) >>= f) state tx = perform now (f first) state tx :=
      rfl
    simp [Yields, hdone]

theorem yields_get_bind (f : σ → Task σ β) (value : β) :
    Yields now (Task.get >>= f) state tx value state' tx' ↔
      Yields now (f state) state tx value state' tx' := Iff.rfl

theorem yields_set_bind (next : σ) (f : Unit → Task σ β) (value : β) :
    Yields now (Task.set next >>= f) state tx value state' tx' ↔
      Yields now (f ()) next tx value state' tx' := Iff.rfl

theorem yields_termDates_bind (f : Request.termDates.Reply → Task σ β) (value : β) :
    Yields now (Task.ask .termDates >>= f) state tx value state' tx' ↔
      Yields now (f tx.work.termDates) state tx value state' tx' := Iff.rfl

theorem yields_change (f : σ → Except Failure σ) (value : Unit) :
    Yields now (Task.change f) state tx value state' tx' ↔ f state = .ok state' ∧ tx' = tx := by
  simp only [Yields, perform, Task.change]
  cases f state with
  | error cause => simp [hold]
  | ok next => simp [hold, eq_comm]

/-! ## Tasks in a transaction of their own -/

theorem Follows.hold {base : State} (h : Follows base tx) (program : Program σ α) :
    Follows base (hold now program tx).2.2 := by
  induction program generalizing tx with
  | done value state => exact h
  | fail cause state => exact h
  | ask request state next ih =>
    have hanswer := h.answer now request
    simp only [Memory.hold]
    revert hanswer
    rcases Memory.answer now request tx with ⟨_ | reply, tx⟩
    · exact id
    · exact fun hanswer => ih reply hanswer

/-- A published state has every table as the transaction sees it, if nobody else has written. -/
theorem Follows.table_publish {base : State} (h : Follows base tx) :
    (publish tx base).table = tx.work.table := by
  funext name
  rw [Memory.table_publish]
  split
  · rfl
  · rename_i hname
    exact (h.unwritten name hname).symm

/-- **All or nothing**: a task in a transaction of its own fails and leaves everything as it was, or
succeeds, and every table is as the task left it. -/
theorem transact_cases (mode : Mode) (task : Task σ α) (state : σ) (w : State) :
    (∃ cause state', (warehouse now).transact mode task state w = (.error cause, state', w)) ∨
    (∃ value state' tx', Yields now task state (begin w) value state' tx' ∧
      (warehouse now).transact mode task state w = (.ok value, state', publish tx' w) ∧
      (publish tx' w).table = tx'.work.table) := by
  have hbegin : (warehouse now).begin mode w = (.ok (begin w), w) := rfl
  have hcommit : (warehouse now).commit = commit := rfl
  have hrollback : ∀ tx, ((warehouse now).rollback tx w).2 = w := fun _ => rfl
  have hfollows := (follows_begin w).hold now (task state)
  simp only [Warehouse.transact, hbegin, hcommit, converse_eq_hold]
  rcases hperform : hold now (task state) (begin w) with ⟨cause | value, state', tx'⟩
  · exact Or.inl ⟨cause, state', by simp only [hrollback]⟩
  · rw [hperform] at hfollows
    rcases commit_cases tx' w with ⟨cause, hfail, -⟩ | ⟨hpublish, -⟩
    · exact Or.inl ⟨cause, state', by simp only [hfail]⟩
    · exact Or.inr ⟨value, state', tx', hperform, by simp only [hpublish],
        hfollows.table_publish⟩

/-- A task that succeeds in a transaction of its own leaves every table as the task left it. -/
theorem yields_of_transact {mode : Mode} {task : Task σ α} {state state' : σ} {w w' : State}
    {value : α} (h : (warehouse now).transact mode task state w = (.ok value, state', w')) :
    ∃ tx', Yields now task state (begin w) value state' tx' ∧ w'.table = tx'.work.table := by
  rcases transact_cases now mode task state w with
    ⟨cause, state'', hfail⟩ | ⟨value', state'', tx', hyields, hok, htable⟩
  · cases h.symm.trans hfail
  · cases h.symm.trans hok
    exact ⟨tx', hyields, htable⟩

end Registrar.Memory
