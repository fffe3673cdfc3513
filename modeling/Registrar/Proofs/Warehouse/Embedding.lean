import Registrar.Warehouse.Basic
/-!
# A warehouse inside another one

A warehouse may do what another one does and carry more than its state: a count, a clock, what others
will do. If it does so with every request and at both ends of a transaction (`Embeds`), a task comes to
the same in both (`Embeds.transact`).
-/
namespace Registrar.Warehouse

variable {ω ω' τ σ α : Type}

/-- Of the outer warehouse, `before` is the state around one of the inner warehouse before a
transaction begins there, and `after` from then on. -/
structure Embeds (inner : Warehouse ω τ) (outer : Warehouse ω' τ) (before after : ω → ω') :
    Prop where
  begin : ∀ mode w, outer.begin mode (before w) =
    ((inner.begin mode w).1, after (inner.begin mode w).2)
  answer : ∀ request tx w, outer.answer request tx (after w) =
    ((inner.answer request tx w).1, (inner.answer request tx w).2.1,
      after (inner.answer request tx w).2.2)
  commit : ∀ tx w, outer.commit tx (after w) =
    ((inner.commit tx w).1, after (inner.commit tx w).2)
  rollback : ∀ tx w, outer.rollback tx (after w) =
    ((inner.rollback tx w).1, after (inner.rollback tx w).2)

namespace Embeds

variable {inner : Warehouse ω τ} {outer : Warehouse ω' τ} {before after : ω → ω'}

theorem converse (h : Embeds inner outer before after) (program : Program σ α) (tx : τ) (w : ω) :
    outer.converse program tx (after w) =
      let outcome := inner.converse program tx w
      ⟨outcome.result, outcome.state, outcome.transaction, after outcome.warehouse⟩ := by
  induction program generalizing tx w with
  | done value state => rfl
  | fail cause state => rfl
  | ask request state next ih =>
    simp only [Warehouse.converse, h.answer]
    rcases inner.answer request tx w with ⟨_ | reply, tx, w⟩
    · rfl
    · exact ih reply tx w

/-- A task comes to the same. -/
theorem transact (h : Embeds inner outer before after) (mode : Mode) (task : Task σ α) (state : σ)
    (w : ω) :
    outer.transact mode task state (before w) =
      let (result, state, w) := inner.transact mode task state w
      (result, state, after w) := by
  simp only [Warehouse.transact, h.begin]
  rcases inner.begin mode w with ⟨cause | tx, w⟩
  · rfl
  · simp only [h.converse]
    rcases inner.converse (task state) tx w with ⟨cause | value, state, tx, w⟩
    · simp only [h.rollback]
    · simp only [h.commit]
      rcases inner.commit tx w with ⟨cause | ⟨⟩, w⟩ <;> rfl

end Embeds

end Registrar.Warehouse
