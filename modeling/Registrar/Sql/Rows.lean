import Registrar.Failure
import Registrar.Sql.Value
/-!
# Records as rows

A table's layout says what its columns are called and which values a record has for them. Records
become rows only if every one of them has exactly one value for every column, so a column and its
value always stand at the same place.
-/
namespace Registrar.Sql

/-- A table, its columns and the values a record has for them, in the same order (`row::Record`). -/
structure Layout (ρ : Type) where
  table : String
  columns : List String
  values : ρ → List Value

/-- Rows for the columns of a table (`row::Projection`). -/
structure Rows where
  table : String
  columns : List String
  rows : List (List Value)
  deriving DecidableEq, Repr

/-- `items` in pieces of `size`, the last one shorter; pieces of no items are pieces of one. -/
def chunk {α : Type} (size : Nat) (items : List α) : List (List α) :=
  match items with
  | [] => []
  | item :: rest => (item :: rest.take (size - 1)) :: chunk size (rest.drop (size - 1))
termination_by items.length
decreasing_by simp only [List.length_drop, List.length_cons]; omega

@[simp] theorem flatten_chunk {α : Type} (size : Nat) (items : List α) :
    (chunk size items).flatten = items := by
  fun_induction chunk size items with
  | case1 => rfl
  | case2 item rest ih => simp [ih]

namespace Layout

variable {ρ : Type}

/-- The values of a record, one for every column (`row::row_values`). -/
def row (layout : Layout ρ) (record : ρ) : Except Failure (List Value) :=
  let values := layout.values record
  let columns := layout.columns
  if columns = [] then .error (.shape layout.table "record declares no columns")
  else if values.length ≠ columns.length then
    let names := ", ".intercalate columns
    .error (.shape layout.table
      s!"{values.length} values for {columns.length} columns ({names})")
  else .ok values

theorem row_eq_ok_iff (layout : Layout ρ) (record : ρ) (values : List Value) :
    layout.row record = .ok values ↔
      layout.columns ≠ [] ∧ values = layout.values record
        ∧ values.length = layout.columns.length := by
  simp only [row]
  split <;> rename_i h1
  · simp [h1]
  split <;> rename_i h2
  · simp only [reduceCtorEq, false_iff]
    rintro ⟨_, rfl, h⟩
    exact h2 h
  · simp only [Except.ok.injEq]
    constructor
    · rintro rfl
      exact ⟨h1, rfl, by omega⟩
    · rintro ⟨_, rfl, _⟩
      rfl

/-- The rows of some records (`Projection::of`). -/
def rowsOf (layout : Layout ρ) (records : List ρ) : Except Failure Rows := do
  return ⟨layout.table, layout.columns, ← records.mapM layout.row⟩

end Layout

/-- The rows in pieces of `size` (`Projection::chunks`). -/
def Rows.chunks (size : Nat) (r : Rows) : List Rows :=
  (chunk size r.rows).map fun rows => { r with rows }

end Registrar.Sql
