import Registrar.Warehouse.Memory
/-!
# What a transaction writes and what its commit publishes

A table is the numbering of what was added to it: entries without ids, to which `Table.extend` gives
the ids that follow the last one. Whatever a transaction is asked extends its own tables
(`answer_table`), and it remembers every table that it extended (`Follows.answer`).

A commit has two outcomes (`commit_cases`): it fails and leaves the state as it was, or nothing that
the transaction wrote or marked has changed since, and the state becomes `publish tx state`.
-/
namespace Registrar.Memory

open Warehouse (Request)

/-! ## Tables as numberings -/

/-- A row without its id: the names of some columns and their values. -/
abbrev Entry := List String × List Sql.Value

/-- Entries as rows, the first of which has the id after `lastId`. -/
def numbered (lastId : Nat) (entries : List Entry) : List Row :=
  entries.mapIdx fun i entry => row entry.1 entry.2 (lastId + i + 1)

@[simp] theorem numbered_nil (lastId : Nat) : numbered lastId [] = [] := rfl

@[simp] theorem length_numbered (lastId : Nat) (entries : List Entry) :
    (numbered lastId entries).length = entries.length := by
  simp [numbered]

theorem getElem?_numbered (lastId : Nat) (entries : List Entry) (i : Nat) :
    (numbered lastId entries)[i]? =
      entries[i]?.map fun entry => row entry.1 entry.2 (lastId + i + 1) := by
  simp [numbered, List.getElem?_mapIdx]

theorem numbered_append (lastId : Nat) (before after : List Entry) :
    numbered lastId (before ++ after) =
      numbered lastId before ++ numbered (lastId + before.length) after := by
  simp only [numbered, List.mapIdx_append]
  congr 2
  funext i entry
  rw [show lastId + (i + before.length) + 1 = lastId + before.length + i + 1 by omega]

/-! ## Cells -/

theorem keys_foldl_put {κ α : Type} [DecidableEq κ] (key : κ) :
    ∀ (cells pairs : List (κ × α)), key ∉ cells.map Prod.fst → key ∉ pairs.map Prod.fst →
      key ∉ (cells.foldl (fun row cell => Keyed.put cell.1 cell.2 row) pairs).map Prod.fst
  | [], _, _, h => h
  | cell :: cells, pairs, hcells, h => by
    simp only [List.map_cons, List.mem_cons, not_or] at hcells
    refine keys_foldl_put key cells _ hcells.2 ?_
    rw [Keyed.mem_keys_put]
    exact not_or.2 ⟨hcells.1, h⟩

theorem lookup_foldl_put_of_notMem {κ α : Type} [DecidableEq κ] (key : κ) :
    ∀ (cells pairs : List (κ × α)), key ∉ cells.map Prod.fst →
      (cells.foldl (fun row cell => Keyed.put cell.1 cell.2 row) pairs).lookup key =
        pairs.lookup key
  | [], _, _ => rfl
  | cell :: cells, pairs, h => by
    simp only [List.map_cons, List.mem_cons, not_or] at h
    rw [List.foldl_cons, lookup_foldl_put_of_notMem key cells _ h.2, Keyed.lookup_put, if_neg h.1]

theorem lookup_foldl_put_of_lookup {κ α : Type} [DecidableEq κ] (key : κ) (value : α) :
    ∀ (cells pairs : List (κ × α)), (cells.map Prod.fst).Nodup → cells.lookup key = some value →
      (cells.foldl (fun row cell => Keyed.put cell.1 cell.2 row) pairs).lookup key = some value
  | (other, value') :: cells, pairs, hnodup, h => by
    obtain ⟨hnew, hnodup⟩ := List.nodup_cons.1 hnodup
    rw [List.foldl_cons]
    by_cases hkey : key = other
    · subst hkey
      rw [lookup_foldl_put_of_notMem _ cells _ hnew, Keyed.lookup_put, if_pos rfl]
      rwa [List.lookup_cons_self] at h
    · refine lookup_foldl_put_of_lookup key value cells _ hnodup ?_
      rwa [List.lookup_cons, beq_false_of_ne hkey] at h

/-- A row has the id that it is given, unless one of its columns is called so. -/
theorem lookup_id_row {columns : List String} (h : "id" ∉ columns) (values : List Sql.Value)
    (id : Nat) : (row columns values id).lookup "id" = some (.bigint id) := by
  refine Keyed.lookup_putNew ?_ _
  refine keys_foldl_put "id" _ _ (fun hmem => h ?_) (by simp)
  obtain ⟨cell, hcell, hkey⟩ := List.mem_map.1 hmem
  exact hkey ▸ (List.of_mem_zip hcell).1

/-- Every column of a row has its own value, if no two columns are called the same. -/
theorem lookup_row {columns : List String} (hcolumns : columns.Nodup) {values : List Sql.Value}
    {column : String} {value : Sql.Value} (h : (columns.zip values).lookup column = some value)
    (id : Nat) : (row columns values id).lookup column = some value := by
  have hsub : ∀ (columns : List String) (values : List Sql.Value),
      ((columns.zip values).map Prod.fst).Sublist columns := by
    intro columns
    induction columns with
    | nil => simp
    | cons name rest ih =>
      intro values
      cases values with
      | nil => simp
      | cons value values => exact (ih values).cons_cons name
  have hnodup := (hsub columns values).nodup hcolumns
  exact Keyed.lookup_putNew_of_some (lookup_foldl_put_of_lookup column value _ [] hnodup h) _ _

namespace Table

/-- A table with more rows, whose ids follow the last one. -/
def extend (table : Table) (entries : List Entry) : Table where
  lastId := table.lastId + entries.length
  rows := table.rows ++ numbered table.lastId entries

@[simp] theorem extend_nil (table : Table) : table.extend [] = table := by
  simp [extend]

theorem extend_extend (table : Table) (before after : List Entry) :
    (table.extend before).extend after = table.extend (before ++ after) := by
  simp only [extend, numbered_append, List.length_append, List.append_assoc, Nat.add_assoc]

theorem append_eq_extend (table : Table) (columns : List String) (rows : List (List Sql.Value)) :
    table.append columns rows = table.extend (rows.map fun values => (columns, values)) := by
  simp [append, extend, numbered, List.mapIdx_eq_zipIdx_map, List.zipIdx_map]

end Table

end Registrar.Memory

namespace Registrar.Sql

/-- What some rows add to their table. -/
def Rows.entries (rows : Rows) : List Memory.Entry :=
  rows.rows.map fun values => (rows.columns, values)

@[simp] theorem Rows.length_entries (rows : Rows) : rows.entries.length = rows.rows.length := by
  simp [entries]

end Registrar.Sql

namespace Registrar.Memory

open Warehouse (Request)

/-! ## Answers -/

/-- The ids of `count` rows after `lastId`. -/
def idsAfter (lastId count : Nat) : List Int :=
  (List.range count).map fun i => ((lastId + i + 1 : Nat) : Int)

@[simp] theorem length_idsAfter (lastId count : Nat) : (idsAfter lastId count).length = count := by
  simp [idsAfter]

theorem eq_of_getElem?_idsAfter {lastId count i : Nat} {id : Int}
    (h : (idsAfter lastId count)[i]? = some id) : id = ((lastId + i + 1 : Nat) : Int) := by
  simp only [idsAfter, List.getElem?_map, Option.map_eq_some_iff] at h
  obtain ⟨j, hj, rfl⟩ := h
  obtain ⟨hlt, rfl⟩ := List.getElem?_eq_some_iff.1 hj
  rw [List.getElem_range]

/-- The transaction with rows added to a table. -/
def Transaction.write (tx : Transaction) (rows : Sql.Rows) : Transaction :=
  { tx with
    work := tx.work.setTable rows.table ((tx.work.table rows.table).extend rows.entries)
    written := Keyed.putNew rows.table (tx.work.table rows.table).lastId tx.written }

/-- **`append`** refuses every write to a failing table and grants every other one. -/
theorem append_eq (rows : Sql.Rows) (tx : Transaction) :
    append rows tx =
      if rows.table ∈ tx.work.failing then
        (.error (.warehouse s!"write to {rows.table} rejected"), tx)
      else
        (.ok (idsAfter (tx.work.table rows.table).lastId rows.rows.length), tx.write rows) := by
  simp only [append, Transaction.write, Table.append_eq_extend, idsAfter, Sql.Rows.entries]

namespace Transaction

variable (tx : Transaction) (rows : Sql.Rows)

theorem table_write (name : String) :
    (tx.write rows).work.table name =
      if name = rows.table then (tx.work.table name).extend rows.entries
      else tx.work.table name := by
  simp only [write, State.table_setTable]
  split <;> simp_all

@[simp] theorem failing_write : (tx.write rows).work.failing = tx.work.failing := rfl

end Transaction

/-- What a request added to a table, once it is answered. -/
def added (name : String) : (request : Request) → Except Failure request.Reply → List Entry
  | .insert rows, .ok _ => if rows.table = name then rows.entries else []
  | .copy rows, .ok _ => if rows.table = name then rows.entries else []
  | _, _ => []

variable (now : Time.Instant)

theorem answer_insert (rows : Sql.Rows) (tx : Transaction) :
    answer now (.insert rows) tx =
      if rows.table ∈ tx.work.failing then
        (.error (.warehouse s!"write to {rows.table} rejected"), tx)
      else
        (.ok (idsAfter (tx.work.table rows.table).lastId rows.rows.length), tx.write rows) :=
  append_eq rows tx

theorem answer_copy (rows : Sql.Rows) (tx : Transaction) :
    answer now (.copy rows) tx =
      if rows.table ∈ tx.work.failing then
        (.error (.warehouse s!"write to {rows.table} rejected"), tx)
      else (.ok rows.rows.length, tx.write rows) := by
  simp only [answer, append_eq]
  by_cases h : rows.table ∈ tx.work.failing <;> simp [h]

/-- Every answer extends the tables of the transaction by what the request added. -/
theorem answer_table (request : Request) (tx : Transaction) (name : String) :
    (answer now request tx).2.work.table name =
      (tx.work.table name).extend (added name request (answer now request tx).1) := by
  cases request with
  | insert rows =>
    rw [answer_insert]
    split
    · simp [added]
    · simp only [added, Transaction.table_write, eq_comm (a := name)]
      split <;> simp
  | copy rows =>
    rw [answer_copy]
    split
    · simp [added]
    · simp only [added, Transaction.table_write, eq_comm (a := name)]
      split <;> simp
  | termDates => simp [answer, added]
  | unseen queue => simp [answer, added]
  | markSeen queue => simp [answer, added, markSeen, State.setQueue, State.table]

/-! ## What a transaction remembers -/

/-- The transaction began at `base` and remembers the tables that it wrote since, with the last ids
that they had. -/
structure Follows (base : State) (tx : Transaction) : Prop where
  written : ∀ entry ∈ tx.written, entry.2 = (base.table entry.1).lastId
  unwritten : ∀ name, name ∉ tx.written.map Prod.fst → tx.work.table name = base.table name

theorem follows_begin (base : State) : Follows base (begin base) where
  written := by simp [begin]
  unwritten := by simp [begin]

namespace Follows

variable {base : State} {tx : Transaction}

theorem write (h : Follows base tx) (rows : Sql.Rows) : Follows base (tx.write rows) where
  written := by
    intro entry hmem
    rcases Keyed.mem_putNew hmem with hmem | ⟨rfl, hnew⟩
    · exact h.written entry hmem
    · exact congrArg Table.lastId (h.unwritten _ hnew)
  unwritten := by
    intro name hname
    simp only [Transaction.write, Keyed.mem_keys_putNew, not_or] at hname
    rw [Transaction.table_write, if_neg hname.1]
    exact h.unwritten name hname.2

/-- Whatever it is asked, a transaction remembers the tables that it wrote. -/
theorem answer (h : Follows base tx) (request : Request) :
    Follows base (answer now request tx).2 := by
  cases request with
  | insert rows =>
    rw [answer_insert]
    split
    · exact h
    · exact h.write rows
  | copy rows =>
    rw [answer_copy]
    split
    · exact h
    · exact h.write rows
  | termDates => exact h
  | unseen queue => exact h
  | markSeen queue =>
    exact ⟨h.written, fun name hname => h.unwritten name hname⟩

end Follows

/-! ## Commits -/

theorem lookup_foldl_put {α : Type} (value : String → α) (name : String) :
    ∀ (keys : List (String × Nat)) (pairs : List (String × α)),
      (keys.foldl (fun pairs key => Keyed.put key.1 (value key.1) pairs) pairs).lookup name =
        if name ∈ keys.map Prod.fst then some (value name) else pairs.lookup name
  | [], pairs => by simp
  | key :: keys, pairs => by
    rw [List.foldl_cons, lookup_foldl_put value name keys, Keyed.lookup_put]
    by_cases hkeys : name ∈ keys.map Prod.fst
    · simp [hkeys]
    · by_cases hkey : name = key.1
      · subst hkey; simp
      · simp [hkeys, hkey]

/-- A published state has the tables that the transaction wrote, and the others as they were. -/
theorem table_publish (tx : Transaction) (state : State) (name : String) :
    (publish tx state).table name =
      if name ∈ tx.written.map Prod.fst then tx.work.table name else state.table name := by
  simp only [publish, State.table]
  rw [lookup_foldl_put (fun name => (tx.work.tables.lookup name).getD {}) name]
  split <;> rfl

theorem queues_publish (tx : Transaction) (state : State) (queue : Mail.Queue) :
    (publish tx state).queues queue =
      markAt (tx.marked queue) (tx.work.queues queue) (state.queues queue) := rfl

/-- No table that the transaction wrote has been written since. -/
def Unwritten (tx : Transaction) (state : State) : Prop :=
  ∀ entry ∈ tx.written, (state.table entry.1).lastId = entry.2

/-- Every row that the transaction marked is there, and nobody has seen it. -/
def Unmarked (tx : Transaction) (state : State) : Prop :=
  ∀ queue, ∀ position ∈ tx.marked queue, isUnseenAt (state.queues queue) position = true

theorem overwritten?_eq_none_iff (tx : Transaction) (state : State) :
    overwritten? tx state = none ↔ Unwritten tx state := by
  simp only [overwritten?, Option.map_eq_none_iff, List.find?_eq_none, Unwritten]
  simp

theorem remarked?_eq_none_iff (tx : Transaction) (state : State) :
    remarked? tx state = none ↔ Unmarked tx state := by
  simp only [remarked?, List.find?_eq_none, Unmarked]
  constructor
  · intro h queue position hmem
    have := h queue (Mail.Queue.mem_all queue)
    simp only [List.any_eq_true, not_exists, not_and] at this
    simpa using this position hmem
  · intro h queue _
    simp only [List.any_eq_true, not_exists, not_and]
    intro position hmem
    simp [h queue position hmem]

/-- **`commit`** fails and changes nothing, or finds everything that it is about to replace as the
transaction found it, and publishes. -/
theorem commit_cases (tx : Transaction) (state : State) :
    (∃ cause, commit tx state = (.error cause, state) ∧
      ¬(Unwritten tx state ∧ Unmarked tx state)) ∨
    (commit tx state = (.ok (), publish tx state) ∧ Unwritten tx state ∧ Unmarked tx state) := by
  rw [← overwritten?_eq_none_iff, ← remarked?_eq_none_iff]
  unfold commit
  split
  · rename_i name hname
    exact Or.inl ⟨_, rfl, by simp [hname]⟩
  · rename_i hnone
    split
    · rename_i queue hqueue
      exact Or.inl ⟨_, rfl, by simp [hqueue]⟩
    · rename_i hnone'
      exact Or.inr ⟨rfl, hnone, hnone'⟩

end Registrar.Memory
