import Mathlib.Data.List.Nodup
import Registrar.Import.Stage
import Registrar.Proofs.Failure
import Registrar.Proofs.Memory.Conversation
/-!
# Writing and registering rows

Rows are written in batches, but a transaction in memory does not notice: whatever the size of the
batches, records come to one piece of rows behind the others (`perform_insert`, `perform_copy`), or
the table refuses the first batch and nothing is written. Registering rows succeeds exactly if no
document is registered twice (`yields_registerAll_bind`).
-/
namespace Registrar.Keyed

variable {κ α : Type} [DecidableEq κ]

theorem put_put (key : κ) (value value' : α) (pairs : List (κ × α)) :
    put key value' (put key value pairs) = put key value' pairs := by
  induction pairs with
  | nil => simp [put]
  | cons pair rest ih =>
    by_cases h : pair.1 = key <;> simp [put, h, ih]

theorem putNew_putNew (key : κ) (value value' : α) (pairs : List (κ × α)) :
    putNew key value' (putNew key value pairs) = putNew key value pairs := by
  unfold putNew
  by_cases h : (pairs.lookup key).isSome
  · simp [h]
  · rw [if_neg h]
    simp [List.lookup_append]

end Registrar.Keyed

namespace Registrar.Sql

theorem ne_nil_of_mem_chunk {α : Type} {size : Nat} {items piece : List α}
    (h : piece ∈ chunk size items) : piece ≠ [] := by
  fun_induction chunk size items with
  | case1 => cases h
  | case2 item rest ih =>
    rcases List.mem_cons.1 h with rfl | hrest
    · simp
    · exact ih hrest

theorem chunk_eq_nil_iff {α : Type} (size : Nat) (items : List α) :
    chunk size items = [] ↔ items = [] := by
  cases items <;> simp [chunk]

namespace Layout

variable {ρ : Type} (layout : Layout ρ)

/-- There are columns, and each of some records has as many values. -/
structure Complete (records : List ρ) : Prop where
  columns : layout.columns ≠ []
  values : ∀ record ∈ records, (layout.values record).length = layout.columns.length

/-- There are columns, none of them twice and none for the id, and every record has as many
values. -/
structure WellShaped : Prop where
  columns : layout.columns ≠ []
  distinct : layout.columns.Nodup
  withoutId : "id" ∉ layout.columns
  values : ∀ record, (layout.values record).length = layout.columns.length

/-- Records as rows. -/
def toRows (records : List ρ) : Rows := ⟨layout.table, layout.columns, records.map layout.values⟩

/-- What records add to their table. -/
def entries (records : List ρ) : List Memory.Entry :=
  records.map fun record => (layout.columns, layout.values record)

variable {layout}

theorem WellShaped.complete (h : layout.WellShaped) (records : List ρ) : layout.Complete records :=
  ⟨h.columns, fun record _ => h.values record⟩

theorem Complete.rowsOf_eq {records : List ρ} (h : layout.Complete records) :
    layout.rowsOf records = .ok (layout.toRows records) := by
  have hrows : records.mapM layout.row = .ok (records.map layout.values) := by
    rw [mapM_eq_ok_iff, List.map_map]
    exact List.map_congr_left fun record hrecord =>
      (layout.row_eq_ok_iff record _).2 ⟨h.columns, rfl, h.values record hrecord⟩
  rw [rowsOf, hrows]
  rfl

theorem rowsOf_eq (h : layout.WellShaped) (records : List ρ) :
    layout.rowsOf records = .ok (layout.toRows records) :=
  (h.complete records).rowsOf_eq

end Layout

end Registrar.Sql

namespace Registrar.Memory

/-- The tables of a state by their names. -/
abbrev Tables := String → Table

/-- Tables with more entries in one of them. -/
def Tables.add (tables : Tables) (name : String) (entries : List Entry) : Tables := fun other =>
  if other = name then (tables other).extend entries else tables other

theorem idsAfter_append (lastId m n : Nat) :
    idsAfter lastId (m + n) = idsAfter lastId m ++ idsAfter (lastId + m) n := by
  simp only [idsAfter, List.range_add, List.map_append, List.map_map]
  congr 1
  refine List.map_congr_left fun i _ => ?_
  simp only [Function.comp_apply, Nat.add_assoc]

namespace Transaction

variable (tx : Transaction)

/-- The transaction with some rows written; without rows it does not notice. -/
def store (rows : Sql.Rows) : Transaction := if rows.rows = [] then tx else tx.write rows

theorem write_write (table : String) (columns : List String) (rows rows' : List (List Sql.Value)) :
    (tx.write ⟨table, columns, rows⟩).write ⟨table, columns, rows'⟩ =
      tx.write ⟨table, columns, rows ++ rows'⟩ := by
  have htable : (tx.write ⟨table, columns, rows⟩).work.table table =
      (tx.work.table table).extend (Sql.Rows.entries ⟨table, columns, rows⟩) := by
    rw [table_write, if_pos rfl]
  conv_lhs => rw [write, htable]
  simp only [write, State.setTable, Keyed.put_put, Keyed.putNew_putNew, Table.extend_extend,
    Sql.Rows.entries, List.map_append]

theorem store_store (table : String) (columns : List String) (rows rows' : List (List Sql.Value)) :
    (tx.store ⟨table, columns, rows⟩).store ⟨table, columns, rows'⟩ =
      tx.store ⟨table, columns, rows ++ rows'⟩ := by
  by_cases h : rows = []
  · simp [store, h]
  · by_cases h' : rows' = []
    · simp [store, h']
    · simp only [store, if_neg h', List.append_eq_nil_iff, h, false_and, if_false,
        write_write]

theorem table_store (rows : Sql.Rows) :
    (tx.store rows).work.table = Tables.add tx.work.table rows.table rows.entries := by
  funext name
  unfold store
  split
  · rename_i hnil
    simp [Tables.add, Sql.Rows.entries, hnil]
  · rw [table_write]
    rfl

@[simp] theorem failing_store (rows : Sql.Rows) :
    (tx.store rows).work.failing = tx.work.failing := by
  unfold store
  split <;> simp

end Transaction

variable {ρ : Type}

theorem entries_toRows (layout : Sql.Layout ρ) (records : List ρ) :
    (layout.toRows records).entries = layout.entries records := by
  simp [Sql.Layout.toRows, Sql.Rows.entries, Sql.Layout.entries]

/-- The row of a record stands at the place of the record. -/
theorem getElem?_numbered_entries (lastId : Nat) (layout : Sql.Layout ρ) (records : List ρ)
    (i : Nat) :
    (numbered lastId (layout.entries records))[i]? =
      records[i]?.map fun record => row layout.columns (layout.values record) (lastId + i + 1) := by
  rw [getElem?_numbered, Sql.Layout.entries, List.getElem?_map, Option.map_map]
  rfl

theorem table_store_toRows (tx : Transaction) (layout : Sql.Layout ρ) (records : List ρ) :
    (tx.store (layout.toRows records)).work.table =
      Tables.add tx.work.table layout.table (layout.entries records) := by
  rw [Transaction.table_store, entries_toRows]
  rfl

end Registrar.Memory

namespace Registrar.Import

open Memory (Transaction Yields perform idsAfter)

/-! ## Batches -/

section

variable (now : Time.Instant) (ids : IdMap)

/-- The failure of a write to a table that refuses it. -/
def refusal (table : String) : Failure := .warehouse s!"write to {table} rejected"

theorem perform_insertAll (table : String) (columns : List String)
    (pieces : List (List (List Sql.Value))) (hpieces : ∀ piece ∈ pieces, piece ≠ [])
    (tx : Transaction) :
    perform now (Work.insertAll (pieces.map fun rows => ⟨table, columns, rows⟩)) ids tx =
      if pieces ≠ [] ∧ table ∈ tx.work.failing then (.error (refusal table), ids, tx)
      else (.ok (idsAfter (tx.work.table table).lastId pieces.flatten.length), ids,
        tx.store ⟨table, columns, pieces.flatten⟩) := by
  induction pieces generalizing tx with
  | nil => rfl
  | cons piece rest ih =>
    have hpiece : piece ≠ [] := hpieces piece List.mem_cons_self
    have hrest := ih fun other hother => hpieces other (List.mem_cons_of_mem _ hother)
    have hstore : tx.write ⟨table, columns, piece⟩ = tx.store ⟨table, columns, piece⟩ := by
      rw [Transaction.store, if_neg hpiece]
    simp only [List.map_cons, Work.insertAll, Memory.perform_bind]
    rw [Memory.perform_insert]
    by_cases hfailing : table ∈ tx.work.failing
    · simp [hfailing, refusal]
    · simp only [hfailing, if_false, and_false, hstore, hrest, Transaction.failing_store]
      have hids : idsAfter (tx.work.table table).lastId (piece :: rest).flatten.length =
          idsAfter (tx.work.table table).lastId piece.length ++
            idsAfter ((tx.store ⟨table, columns, piece⟩).work.table table).lastId
              rest.flatten.length := by
        rw [List.flatten_cons, List.length_append, Memory.idsAfter_append, Transaction.table_store]
        simp [Memory.Tables.add, Memory.Table.extend]
      rw [hids, List.flatten_cons, ← Transaction.store_store]
      rfl

/-- Writing in bulk does what inserting does, and counts the ids. -/
theorem perform_copyAll (pieces : List Sql.Rows) (tx : Transaction) :
    perform now (Work.copyAll pieces) ids tx =
      ((perform now (Work.insertAll pieces) ids tx).1.map List.length,
        (perform now (Work.insertAll pieces) ids tx).2) := by
  induction pieces generalizing tx with
  | nil => rfl
  | cons rows rest ih =>
    simp only [Work.copyAll, Work.insertAll, Memory.perform_bind]
    rw [Memory.perform_insert, Memory.perform_copy]
    by_cases hfailing : rows.table ∈ tx.work.failing
    · simp [hfailing, Except.map]
    · simp only [hfailing, if_false, ih]
      rcases perform now (Work.insertAll rest) ids (tx.write rows) with ⟨cause | more, ids', tx'⟩
      · rfl
      · simp only [Except.map]
        exact congrArg (fun count => (Except.ok count, ids', tx')) (by simp)

variable {ρ : Type} {layout : Sql.Layout ρ} (size : Nat) (records : List ρ)

/-- The table refuses the records; it never refuses none. -/
def Refused (layout : Sql.Layout ρ) (records : List ρ) (tx : Transaction) : Prop :=
  records ≠ [] ∧ layout.table ∈ tx.work.failing

instance (tx : Transaction) : Decidable (Refused layout records tx) :=
  inferInstanceAs (Decidable (records ≠ [] ∧ layout.table ∈ tx.work.failing))

/-- **`Work.insert`** does not depend on the size of the batches. -/
theorem perform_insert_of_complete (h : layout.Complete records) (tx : Transaction) :
    perform now (Work.insert size layout records) ids tx =
      if Refused layout records tx then (.error (refusal layout.table), ids, tx)
      else (.ok (idsAfter (tx.work.table layout.table).lastId records.length), ids,
        tx.store (layout.toRows records)) := by
  have hchunks := perform_insertAll now ids layout.table layout.columns
    (Sql.chunk size (records.map layout.values)) (fun _ => Sql.ne_nil_of_mem_chunk) tx
  have hlift : perform now (Work.insert size layout records) ids tx =
      perform now (Work.insertAll ((layout.toRows records).chunks size)) ids tx := by
    rw [Work.insert, h.rowsOf_eq]
    rfl
  rw [hlift, Sql.Rows.chunks]
  refine hchunks.trans ?_
  simp only [Sql.flatten_chunk, List.length_map, ne_eq, Sql.chunk_eq_nil_iff, List.map_eq_nil_iff]
  exact if_congr Iff.rfl rfl rfl

/-- **`Work.copy`** does not depend on the size of the batches. -/
theorem perform_copy_of_complete (h : layout.Complete records) (tx : Transaction) :
    perform now (Work.copy size layout records) ids tx =
      if Refused layout records tx then (.error (refusal layout.table), ids, tx)
      else (.ok records.length, ids, tx.store (layout.toRows records)) := by
  have hcopy : perform now (Work.copy size layout records) ids tx =
      ((perform now (Work.insert size layout records) ids tx).1.map List.length,
        (perform now (Work.insert size layout records) ids tx).2) := by
    rw [Work.copy, Work.insert, h.rowsOf_eq]
    exact perform_copyAll now ids ((layout.toRows records).chunks size) tx
  rw [hcopy, perform_insert_of_complete now ids size records h]
  split
  · rfl
  · simp [Except.map]

theorem perform_insert (h : layout.WellShaped) (tx : Transaction) :
    perform now (Work.insert size layout records) ids tx =
      if Refused layout records tx then (.error (refusal layout.table), ids, tx)
      else (.ok (idsAfter (tx.work.table layout.table).lastId records.length), ids,
        tx.store (layout.toRows records)) :=
  perform_insert_of_complete now ids size records (h.complete records) tx

theorem perform_copy (h : layout.WellShaped) (tx : Transaction) :
    perform now (Work.copy size layout records) ids tx =
      if Refused layout records tx then (.error (refusal layout.table), ids, tx)
      else (.ok records.length, ids, tx.store (layout.toRows records)) :=
  perform_copy_of_complete now ids size records (h.complete records) tx

variable {α : Type} {tx tx' : Transaction} {ids' : IdMap}

/-- A task that inserts records and goes on with their ids. -/
theorem yields_insert_bind (h : layout.WellShaped) (f : List Int → Work α) (value : α) :
    Yields now (Work.insert size layout records >>= f) ids tx value ids' tx' ↔
      ¬Refused layout records tx ∧
      Yields now (f (idsAfter (tx.work.table layout.table).lastId records.length)) ids
        (tx.store (layout.toRows records)) value ids' tx' := by
  rw [Yields, Memory.perform_bind, perform_insert now ids size records h]
  by_cases hrefused : Refused layout records tx <;> simp [hrefused, Yields]

/-- A task that writes records and goes on with their number. -/
theorem yields_copy_bind (h : layout.WellShaped) (f : Nat → Work α) (value : α) :
    Yields now (Work.copy size layout records >>= f) ids tx value ids' tx' ↔
      ¬Refused layout records tx ∧
      Yields now (f records.length) ids (tx.store (layout.toRows records)) value ids' tx' := by
  rw [Yields, Memory.perform_bind, perform_copy now ids size records h]
  by_cases hrefused : Refused layout records tx <;> simp [hrefused, Yields]

end

/-! ## Registering -/

namespace IdMap

/-- The map with the rows of some documents of a kind. -/
def registered (entity : Entity) (pairs : List (LegacyId × Int)) (ids : IdMap) : IdMap :=
  { ids with entries := ids.entries ++ pairs.map fun pair => ((entity, pair.1), pair.2) }

/-- None of some documents of a kind has a row, and none comes twice. -/
structure Fresh (ids : IdMap) (entity : Entity) (names : List LegacyId) : Prop where
  nodup : names.Nodup
  unregistered : ∀ name ∈ names, ids.get? entity name = none

theorem put_eq_ok_iff {entity : Entity} {id : LegacyId} {row : Int} {ids ids' : IdMap} :
    put entity id row ids = .ok ids' ↔
      ids.get? entity id = none ∧ ids' = ids.registered entity [(id, row)] := by
  unfold put
  cases ids.get? entity id <;> simp [registered, eq_comm]

theorem get?_registered_single (ids : IdMap) (entity : Entity) (id other : LegacyId) (row : Int) :
    (ids.registered entity [(id, row)]).get? entity other = none ↔
      ids.get? entity other = none ∧ other ≠ id := by
  simp only [get?, registered, List.map_cons, List.map_nil, List.lookup_append,
    Option.or_eq_none_iff, List.lookup_cons, List.lookup_nil]
  refine and_congr_right fun _ => ?_
  by_cases h : other = id
  · simp [h]
  · have hbeq : ((entity, other) == (entity, id)) = false := by simp [h]
    simp [hbeq, h]

theorem registered_registered (ids : IdMap) (entity : Entity)
    (pairs pairs' : List (LegacyId × Int)) :
    (ids.registered entity pairs).registered entity pairs' =
      ids.registered entity (pairs ++ pairs') := by
  simp [registered]

theorem fresh_cons_iff (row : Int) {ids : IdMap} {entity : Entity} {name : LegacyId}
    {names : List LegacyId} :
    ids.Fresh entity (name :: names) ↔
      ids.get? entity name = none ∧ (ids.registered entity [(name, row)]).Fresh entity names := by
  constructor
  · rintro ⟨hnodup, hnone⟩
    obtain ⟨hnot, hnodup⟩ := List.nodup_cons.1 hnodup
    refine ⟨hnone name List.mem_cons_self, hnodup, fun other hother => ?_⟩
    rw [get?_registered_single]
    exact ⟨hnone other (List.mem_cons_of_mem _ hother), fun h => hnot (h ▸ hother)⟩
  · rintro ⟨hname, hnodup, hnone⟩
    simp only [get?_registered_single] at hnone
    refine ⟨List.nodup_cons.2 ⟨fun hmem => (hnone name hmem).2 rfl, hnodup⟩, ?_⟩
    intro other hother
    rcases List.mem_cons.1 hother with rfl | hother
    · exact hname
    · exact (hnone other hother).1

end IdMap

/-- **`Work.registerAll`** succeeds exactly if no document has a row yet or comes twice. -/
theorem yields_registerAll_bind (now : Time.Instant) {α : Type} {ids ids' : IdMap}
    {tx tx' : Transaction} (entity : Entity) (pairs : List (LegacyId × Int)) (f : Unit → Work α)
    (value : α) :
    Yields now (Work.registerAll entity pairs >>= f) ids tx value ids' tx' ↔
      ids.Fresh entity (pairs.map Prod.fst) ∧
      Yields now (f ()) (ids.registered entity pairs) tx value ids' tx' := by
  have hall : ∀ (pairs : List (LegacyId × Int)) (ids ids' : IdMap) (tx' : Transaction),
      Yields now (Work.registerAll entity pairs) ids tx () ids' tx' ↔
        ids.Fresh entity (pairs.map Prod.fst) ∧ ids' = ids.registered entity pairs ∧ tx' = tx := by
    intro pairs
    induction pairs with
    | nil =>
      intro ids ids' tx'
      have hfresh : ids.Fresh entity [] := ⟨List.nodup_nil, by simp⟩
      simp [Work.registerAll, Memory.yields_pure, IdMap.registered, hfresh]
    | cons pair rest ih =>
      intro ids ids' tx'
      obtain ⟨id, row⟩ := pair
      simp only [Work.registerAll, Work.register, Memory.yields_bind, Memory.yields_change,
        IdMap.put_eq_ok_iff, List.map_cons]
      rw [IdMap.fresh_cons_iff row]
      constructor
      · rintro ⟨first, middle, through, ⟨⟨hnone, rfl⟩, rfl⟩, hrest⟩
        obtain ⟨hfresh, rfl, rfl⟩ := (ih _ _ _).1 hrest
        exact ⟨⟨hnone, hfresh⟩, IdMap.registered_registered ids entity _ _, rfl⟩
      · rintro ⟨⟨hnone, hfresh⟩, rfl, rfl⟩
        refine ⟨(), _, tx', ⟨⟨hnone, rfl⟩, rfl⟩, (ih _ _ _).2 ⟨hfresh, ?_, rfl⟩⟩
        exact (IdMap.registered_registered ids entity [(id, row)] rest).symm
  rw [Memory.yields_bind]
  constructor
  · rintro ⟨⟨⟩, middle, through, hregister, hrest⟩
    obtain ⟨hfresh, rfl, rfl⟩ := (hall pairs ids middle through).1 hregister
    exact ⟨hfresh, hrest⟩
  · rintro ⟨hfresh, hrest⟩
    exact ⟨(), _, _, (hall pairs ids _ tx).2 ⟨hfresh, rfl, rfl⟩, hrest⟩

end Registrar.Import
