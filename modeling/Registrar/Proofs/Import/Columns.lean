import Registrar.Proofs.Import.Places
import Registrar.Proofs.Import.Writing
import Registrar.Proofs.Memory.Solitude
/-!
# Values under their columns

Columns and values travel apart, from the records through the batches to the table, and meet again
in its rows. If no two columns are called the same and none is called like the id, a row has under
every column the value at the place of the column (`Memory.holds_row`). Every record is looked at
before the first batch goes out: where one of them has too few or too many values, they all fail
(`rowsOf_eq_error`), and the task does so without having asked for anything.
-/
namespace Registrar.Memory

variable {ρ : Type} {layout : Sql.Layout ρ}

/-! ## Rows -/

/-- The row holds a record: under every column the value that the record has at the place of the
column, besides them the id, and nothing else. -/
structure Holds (layout : Sql.Layout ρ) (record : ρ) (id : Nat) (row : Row) : Prop where
  cells : ∀ (i : Nat) (h : i < layout.columns.length), ∃ value,
    (layout.values record)[i]? = some value ∧ row.lookup layout.columns[i] = some value
  id : row.lookup "id" = some (.bigint id)
  columns : row.map Prod.fst = layout.columns ++ ["id"]

theorem holds_row (hdistinct : layout.columns.Nodup) (hid : "id" ∉ layout.columns) {record : ρ}
    (hlength : (layout.values record).length = layout.columns.length) (id : Nat) :
    Holds layout record id (row layout.columns (layout.values record) id) := by
  have hkeys : (layout.columns.zip (layout.values record)).map Prod.fst = layout.columns :=
    List.map_fst_zip (Nat.le_of_eq hlength.symm)
  refine ⟨fun i hi => ⟨(layout.values record)[i], List.getElem?_eq_getElem _, ?_⟩,
    lookup_id_row hid _ id, ?_⟩
  · refine lookup_row hdistinct ?_ id
    rw [lookup_eq_some_iff_mem (by rwa [hkeys])]
    exact List.mem_iff_getElem.2 ⟨i, by rw [List.length_zip]; omega, List.getElem_zip⟩
  · rw [row_eq hdistinct hid hlength, List.map_append, hkeys]
    rfl

/-- The table receives records: behind the rows that it had comes one row for each record, in their
order, and holds it. -/
structure Receives (layout : Sql.Layout ρ) (records : List ρ) (before after : Table) : Prop where
  lastId : after.lastId = before.lastId + records.length
  rows : ∃ new, after.rows = before.rows ++ new ∧ new.length = records.length ∧
    ∀ (i : Nat) (record : ρ), records[i]? = some record →
      ∃ row, new[i]? = some row ∧ Holds layout record (before.lastId + i + 1) row

theorem receives_extend (hdistinct : layout.columns.Nodup) (hid : "id" ∉ layout.columns)
    {records : List ρ} (hcomplete : layout.Complete records) (table : Table) :
    Receives layout records table (table.extend (layout.entries records)) := by
  have hlength : (layout.entries records).length = records.length := List.length_map _
  refine ⟨congrArg (table.lastId + ·) hlength,
    numbered table.lastId (layout.entries records), rfl, by rw [length_numbered, hlength], ?_⟩
  intro i record hrecord
  refine ⟨_, by rw [getElem?_numbered_entries, hrecord, Option.map_some], ?_⟩
  exact holds_row hdistinct hid (hcomplete.values record (List.mem_of_getElem? hrecord)) _

/-! ## Storing and committing -/

variable {base : State} {tx : Transaction}

theorem Transaction.mem_written_store (tx : Transaction) (rows : Sql.Rows) (h : rows.rows ≠ []) :
    rows.table ∈ (tx.store rows).written.map Prod.fst := by
  rw [store, if_neg h, write, Keyed.mem_keys_putNew]
  exact Or.inl rfl

namespace Alone

theorem store (h : Alone base tx) (rows : Sql.Rows) : Alone base (tx.store rows) := by
  unfold Transaction.store
  split
  · exact h
  · exact h.write rows

/-- A commit that succeeds leaves a table as the transaction has it, if the transaction wrote it or
everything is as it was at its begin. -/
theorem table_commit (h : Alone base tx) {w w' : State} {name : String}
    (hcommit : Memory.commit tx w = (.ok (), w'))
    (hname : w = base ∨ name ∈ tx.written.map Prod.fst) :
    w'.table name = tx.work.table name := by
  rcases commit_cases tx w with ⟨cause, hfail, -⟩ | ⟨hpublish, -⟩
  · cases hcommit.symm.trans hfail
  · cases hcommit.symm.trans hpublish
    rcases hname with rfl | hwritten
    · rw [h.table_publish]
    · rw [table_publish, if_pos hwritten]

end Alone

end Registrar.Memory

namespace Registrar.Import

open Memory (Alone State Transaction Yields perform idsAfter)

variable {ρ : Type} {layout : Sql.Layout ρ} {records : List ρ}

/-! ## Records of another shape -/

theorem row_eq_error {record : ρ} (h : ¬layout.Complete [record]) :
    ∃ message, layout.row record = .error (.shape layout.table message) := by
  simp only [Sql.Layout.row]
  split
  · exact ⟨_, rfl⟩
  · rename_i hcolumns
    split
    · exact ⟨_, rfl⟩
    · rename_i hlength
      exact absurd ⟨hcolumns, by simpa using hlength⟩ h

/-- The first record that does not fit fails them all. -/
theorem rowsOf_eq_error (hrecords : records ≠ []) (h : ¬layout.Complete records) :
    ∃ message, layout.rowsOf records = .error (.shape layout.table message) := by
  have hrows : ∃ message, records.mapM layout.row = .error (.shape layout.table message) := by
    induction records with
    | nil => exact absurd rfl hrecords
    | cons record rest ih =>
      rw [List.mapM_cons]
      -- The failure is the one of the first record that does not fit, which may be this one.
      by_cases hrecord : layout.Complete [record]
      · have hok : layout.row record = .ok (layout.values record) :=
          (layout.row_eq_ok_iff _ _).2
            ⟨hrecord.columns, rfl, hrecord.values record List.mem_cons_self⟩
        have hrest : ¬layout.Complete rest := fun hrest =>
          h ⟨hrest.columns, List.forall_mem_cons.2
            ⟨hrecord.values record List.mem_cons_self, hrest.values⟩⟩
        have hne : rest ≠ [] := by
          rintro rfl
          exact hrest ⟨hrecord.columns, by simp⟩
        obtain ⟨message, hmessage⟩ := ih hne hrest
        exact ⟨message, by rw [hok, hmessage]; rfl⟩
      · obtain ⟨message, hmessage⟩ := row_eq_error hrecord
        exact ⟨message, by rw [hmessage]; rfl⟩
  obtain ⟨message, hmessage⟩ := hrows
  exact ⟨message, by rw [Sql.Layout.rowsOf, hmessage]; rfl⟩

/-! ## The two ways of writing -/

/-- **No value goes astray.** If there are columns and every record has one value for each,
inserting the records and writing them in bulk do the same to the transaction: its commit adds to
the table one row for each record, in their order, which holds the record, and changes no other
table. Only a table that refuses to be written gets nothing. If some record has another number of
values, or there are no columns for it, both tasks fail before they ask for anything. -/
theorem records_under_their_columns (now : Time.Instant) (size : Nat) (layout : Sql.Layout ρ)
    (hdistinct : layout.columns.Nodup) (hid : "id" ∉ layout.columns) (records : List ρ)
    (ids : IdMap) {base : State} {tx : Transaction} (halone : Alone base tx) :
    (layout.Complete records → layout.table ∉ tx.work.failing → ∃ tx',
      Yields now (Work.copy size layout records) ids tx records.length ids tx' ∧
      Yields now (Work.insert size layout records) ids tx
        (idsAfter (tx.work.table layout.table).lastId records.length) ids tx' ∧
      Memory.commit tx' base = (.ok (), Memory.publish tx' base) ∧
      (∀ w w', Memory.commit tx' w = (.ok (), w') → w = base ∨ records ≠ [] →
        Memory.Receives layout records (tx.work.table layout.table) (w'.table layout.table)) ∧
      ∀ other, other ≠ layout.table →
        (Memory.publish tx' base).table other = tx.work.table other) ∧
    (layout.Complete records → layout.table ∈ tx.work.failing → records ≠ [] →
      perform now (Work.copy size layout records) ids tx =
        (.error (refusal layout.table), ids, tx) ∧
      perform now (Work.insert size layout records) ids tx =
        (.error (refusal layout.table), ids, tx)) ∧
    (¬layout.Complete records → records ≠ [] → ∃ message,
      Work.copy size layout records ids = .fail (.shape layout.table message) ids ∧
      Work.insert size layout records ids = .fail (.shape layout.table message) ids) := by
  refine ⟨fun hcomplete hwritable => ?complete, fun hcomplete hfailing hrecords => ?refused,
    fun hcomplete hrecords => ?misshapen⟩
  case complete =>
    have hgranted : ¬Refused layout records tx := fun hrefused => hwritable hrefused.2
    have hstored := halone.store (layout.toRows records)
    refine ⟨tx.store (layout.toRows records), ?_, ?_, hstored.commit, ?_, fun other hother => ?_⟩
    · rw [Yields, perform_copy_of_complete now ids size records hcomplete, if_neg hgranted]
    · rw [Yields, perform_insert_of_complete now ids size records hcomplete, if_neg hgranted]
    · intro w w' hcommit hw
      have hwritten : w = base ∨
          layout.table ∈ (tx.store (layout.toRows records)).written.map Prod.fst := by
        refine hw.imp_right fun hrecords => tx.mem_written_store (layout.toRows records) ?_
        simpa [Sql.Layout.toRows] using hrecords
      rw [hstored.table_commit hcommit hwritten, Memory.table_store_toRows, Memory.Tables.add,
        if_pos rfl]
      exact Memory.receives_extend hdistinct hid hcomplete _
    · rw [hstored.table_publish, Memory.table_store_toRows, Memory.Tables.add, if_neg hother]
  case refused =>
    have hrefused : Refused layout records tx := ⟨hrecords, hfailing⟩
    constructor
    · rw [perform_copy_of_complete now ids size records hcomplete, if_pos hrefused]
    · rw [perform_insert_of_complete now ids size records hcomplete, if_pos hrefused]
  case misshapen =>
    obtain ⟨message, hmessage⟩ := rowsOf_eq_error hrecords hcomplete
    refine ⟨message, ?_, ?_⟩
    · rw [Work.copy, hmessage]
      rfl
    · rw [Work.insert, hmessage]
      rfl

/-- A table whose records are their own values. -/
def pairLayout : Sql.Layout (List Sql.Value) := ⟨"pair", ["left", "right"], id⟩

theorem records_under_their_columns_of_pairs :
    (∃ tx', Yields ⟨0, 0⟩
        (Work.insert 1 pairLayout [[.bigint 7, .text "x"], [.bigint 8, .null .text]])
        {} (Memory.begin {}) [1, 2] {} tx' ∧
      Memory.commit tx' {} = (.ok (), Memory.publish tx' {}) ∧
      Memory.Receives pairLayout [[.bigint 7, .text "x"], [.bigint 8, .null .text]] {}
        ((Memory.publish tx' {}).table "pair")) ∧
    ∃ message, Work.insert 1 pairLayout [[.bigint 7, .text "x"], [.bigint 8]] {} =
      .fail (.shape "pair" message) {} := by
  have hbegin := Memory.alone_begin {}
  have htrue := records_under_their_columns ⟨0, 0⟩ 1 pairLayout (by decide) (by decide)
    [[.bigint 7, .text "x"], [.bigint 8, .null .text]] {} hbegin
  have hfalse := records_under_their_columns ⟨0, 0⟩ 1 pairLayout (by decide) (by decide)
    [[.bigint 7, .text "x"], [.bigint 8]] {} hbegin
  obtain ⟨tx', -, hinsert, hcommit, hreceives, -⟩ :=
    htrue.1 ⟨by decide, by simp [pairLayout]⟩ (by simp [Memory.begin])
  obtain ⟨message, -, hfail⟩ :=
    hfalse.2.2 (fun h => absurd (h.values [.bigint 8] (by simp)) (by decide)) (by simp)
  exact ⟨⟨tx', hinsert, hcommit, hreceives _ _ hcommit (Or.inl rfl)⟩, message, hfail⟩

end Registrar.Import
