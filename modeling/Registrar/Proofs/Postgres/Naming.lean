import Registrar.Postgres.Warehouse
/-!
# Names in statements

A statement is made of a text and of names, and all that can keep it from being made is a name that
is not valid: `statementOf` succeeds exactly if every name of the request is valid and the schema is
too, where the request needs one, and it fails over the settings if not (`demands_statementOf`).
-/
namespace Registrar

/-! ## Computations that demand something -/

/-- The computation succeeds if `P` holds, and fails over the settings if not. -/
inductive Demands (P : Prop) {α : Type} : Except Failure α → Prop
  | ok (h : P) (value : α) : Demands P (.ok value)
  | error (h : ¬P) (message : String) : Demands P (.error (.settings message))

namespace Demands

variable {α β : Type} {P Q : Prop} {x : Except Failure α}

theorem congr (h : Demands P x) (hiff : P ↔ Q) : Demands Q x := by
  cases h with
  | ok h value => exact .ok (hiff.1 h) value
  | error h message => exact .error (mt hiff.2 h) message

theorem pure (value : α) : Demands True (.ok value) := .ok trivial value

theorem bind {f : α → Except Failure β} (h : Demands P x) (hf : ∀ value, Demands Q (f value)) :
    Demands (P ∧ Q) (x >>= f) := by
  cases h with
  | ok h value => exact (hf value).congr (and_iff_right h).symm
  | error h message => exact .error (fun hboth => h hboth.1) message

theorem map (h : Demands P x) (f : α → β) : Demands P (do return f (← x)) :=
  (h.bind fun value => pure (f value)).congr (and_iff_left trivial)

theorem mapM {R : α → Prop} {f : α → Except Failure β} (hf : ∀ item, Demands (R item) (f item))
    (items : List α) : Demands (∀ item ∈ items, R item) (items.mapM f) := by
  induction items with
  | nil => exact (pure []).congr (by simp)
  | cons item rest ih =>
    rw [List.mapM_cons]
    exact ((hf item).bind fun value => ih.map (value :: ·)).congr (by simp)

theorem exists_ok_iff (h : Demands P x) : (∃ value, x = .ok value) ↔ P := by
  cases h with
  | ok h value => exact ⟨fun _ => h, fun _ => ⟨value, rfl⟩⟩
  | error h message => exact ⟨nofun, fun hP => absurd hP h⟩

theorem exists_error (h : Demands P x) (hP : ¬P) : ∃ message, x = .error (.settings message) := by
  cases h with
  | ok h value => exact absurd h hP
  | error h message => exact ⟨message, rfl⟩

end Demands

/-! ## Names -/

namespace Sql.Identifier

/-- The server takes the name, and takes it whole. -/
structure Valid (name : String) : Prop where
  nonempty : name ≠ ""
  withoutNul : '\x00' ∉ name.toList
  short : Text.utf8Length name.toList ≤ longest

theorem valid_iff {name : String} :
    Valid name ↔
      name ≠ "" ∧ '\x00' ∉ name.toList ∧ Text.utf8Length name.toList ≤ longest :=
  ⟨fun h => ⟨h.nonempty, h.withoutNul, h.short⟩, fun h => ⟨h.1, h.2.1, h.2.2⟩⟩

instance : DecidablePred Valid := fun _ => decidable_of_iff _ valid_iff.symm

theorem check_cases (name : String) :
    check name = .ok () ∨ ∃ message, check name = .error (.settings message) := by
  simp only [check]
  split
  · exact Or.inr ⟨_, rfl⟩
  · split
    · exact Or.inr ⟨_, rfl⟩
    · split
      · exact Or.inr ⟨_, rfl⟩
      · exact Or.inl rfl

theorem demands_check (name : String) : Demands (Valid name) (check name) := by
  have hvalid : check name = .ok () ↔ Valid name := (check_eq_ok_iff name).trans valid_iff.symm
  rcases check_cases name with hok | ⟨message, herror⟩
  · rw [hok]
    exact .ok (hvalid.1 hok) ()
  · rw [herror]
    exact .error (fun h => nomatch (hvalid.2 h).symm.trans herror) message

theorem demands_quote (name : String) : Demands (Valid name) (quote name) :=
  (demands_check name).map fun _ => String.ofList (Text.enclosed '"' name.toList)

theorem demands_qualify (schema table : String) :
    Demands (Valid schema ∧ Valid table) (qualify schema table) :=
  (demands_quote schema).bind fun schema => (demands_quote table).map fun table =>
    schema ++ "." ++ table

/-- The names that stand in the name of a table: a schema and a table, or a table alone. -/
def partsOf (table : String) : List String :=
  match Text.splitOnce? '.' table with
  | some (schema, table) => [schema, table]
  | none => [table]

/-- Whether the name of a table leaves the schema open. -/
def isUnplaced (table : String) : Bool := (Text.splitOnce? '.' table).isNone

theorem demands_qualifyTable (schema table : String) :
    Demands ((∀ name ∈ partsOf table, Valid name) ∧ (isUnplaced table → Valid schema))
      (qualifyTable schema table) := by
  simp only [partsOf, isUnplaced, qualifyTable]
  cases Text.splitOnce? '.' table with
  | some parts => exact (demands_qualify _ _).congr (by simp)
  | none => exact (demands_qualify schema table).congr (by simp [and_comm])

theorem demands_quoteColumns (columns : List String) :
    Demands (∀ name ∈ columns, Valid name) (quoteColumns columns) :=
  (Demands.mapM demands_quote columns).map fun names => ", ".intercalate names

end Sql.Identifier

/-- The names in the statements for a layout, a schema that its table does not name aside. -/
def Sql.Layout.names {ρ : Type} (layout : Sql.Layout ρ) : List String :=
  Sql.Identifier.partsOf layout.table ++ layout.columns

namespace Warehouse.Request

open Sql.Identifier (partsOf isUnplaced)

/-- The names that stand in the statement of a request whatever the schema is. -/
def names : Request → List String
  | insert rows | copy rows => partsOf rows.table ++ rows.columns
  | termDates => ["term_date"]
  | unseen _ => ["user", "course", "course_section"]
  | markSeen queue => ["queue", queue.name]

/-- Whether the statement of a request names the schema. -/
def needsSchema : Request → Bool
  | insert rows | copy rows => isUnplaced rows.table
  | termDates | unseen _ => true
  | markSeen _ => false

end Warehouse.Request

/-! ## Statements -/

namespace Postgres

open Sql.Identifier Warehouse

/-- The text of the statement that a request leads to. -/
def statementOf (schema : String) : Request → Except Failure String
  | .insert rows => insertStatement schema rows
  | .copy rows => bulkStatement schema rows
  | .termDates => termStatement schema
  | .unseen queue => queueStatement schema queue
  | .markSeen queue => markStatement queue

/-- The names of a request are valid, and the schema is, where the statement names it. -/
def Stateable (schema : String) (request : Request) : Prop :=
  (∀ name ∈ request.names, Valid name) ∧ (request.needsSchema → Valid schema)

theorem demands_rows (schema : String) (rows : Sql.Rows) (f : String → String → String) :
    Demands (Stateable schema (.insert rows)) (do
      let table ← qualifyTable schema rows.table
      let columns ← quoteColumns rows.columns
      return f table columns) := by
  refine ((demands_qualifyTable schema rows.table).bind fun table =>
    (demands_quoteColumns rows.columns).map (f table)).congr ?_
  simp only [Stateable, Request.names, Request.needsSchema, List.forall_mem_append]
  rw [and_right_comm]

/-- **A statement is made exactly if its names are valid.** -/
theorem demands_statementOf (schema : String) (request : Request) :
    Demands (Stateable schema request) (statementOf schema request) := by
  cases request with
  | insert rows => exact demands_rows schema rows _
  | copy rows => exact demands_rows schema rows _
  | termDates =>
    refine ((demands_qualify schema "term_date").map _).congr ?_
    simp [Stateable, Request.names, Request.needsSchema, and_comm]
  | unseen queue =>
    refine ((demands_qualify schema "user").bind fun user =>
      (demands_qualify schema "course").bind fun course =>
        (demands_qualify schema "course_section").map _).congr ?_
    simp only [Stateable, Request.names, Request.needsSchema, List.forall_mem_cons,
      List.not_mem_nil, false_imp_iff, implies_true, and_true, forall_const]
    grind
  | markSeen queue =>
    refine ((demands_qualify "queue" queue.name).map _).congr ?_
    simp [Stateable, Request.names, Request.needsSchema]

end Postgres

end Registrar
