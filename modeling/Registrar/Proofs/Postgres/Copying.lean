import Registrar.Proofs.Postgres.Naming
import Registrar.Proofs.Postgres.Recording
import Registrar.Proofs.Sql.BulkText
import Registrar.Proofs.Sql.Insert
/-!
# Rows that are sent in bulk

Rows that are written in bulk go behind one statement, whatever their number is. Nothing can keep it
from being sent, since it is made of checked names and of no value (`withoutNul_of_bulkStatement`).
So the log of a server gains one entry, and what follows the statement is, put together, read as the
rows.

Main statement: `copy_sends_rows`.
-/
namespace Registrar

/-! ## The statement -/

namespace Sql.Identifier

theorem withoutNul_of_check {name : String} (h : check name = .ok ()) :
    '\x00' ∉ Text.enclosed '"' name.toList :=
  Text.notMem_enclosed (by decide) ((check_eq_ok_iff name).1 h).2.1

end Sql.Identifier

namespace Postgres

open Sql Sql.Identifier Warehouse

theorem withoutNul_of_bulkStatement {schema sql : String} {rows : Rows}
    (h : bulkStatement schema rows = .ok sql) : '\x00' ∉ sql.toList := by
  simp only [bulkStatement, bind_eq_ok_iff] at h
  obtain ⟨table, htable, columns, hcolumns, h⟩ := h
  cases h
  obtain ⟨s, t, -, hs, ht, htext⟩ := qualifyTable_eq_ok htable
  obtain ⟨hchecks, hjoin⟩ := quoteColumns_eq_ok hcolumns
  have htable : '\x00' ∉ table.toList := by
    rw [htext, List.mem_append, List.mem_cons, not_or, not_or]
    exact ⟨withoutNul_of_check hs, by decide, withoutNul_of_check ht⟩
  have hcolumns : '\x00' ∉ columns.toList := by
    rw [hjoin]
    refine Text.notMem_join (by decide) fun text htext => ?_
    obtain ⟨column, hcolumn, rfl⟩ := List.mem_map.1 htext
    exact withoutNul_of_check (hchecks column hcolumn)
  simp only [String.toList_append, List.mem_append, not_or]
  exact ⟨⟨⟨⟨by decide, htable⟩, by decide⟩, hcolumns⟩, by decide⟩

/-! ## The exchange -/

variable {σ : Type}

/-- A statement without a NUL is sent, and noted with its reply, which is what is read. -/
theorem exchange_withoutNul {α : Type} (server : Server σ) {statement : Statement}
    (hnul : '\x00' ∉ statement.sql.toList) (read : Reply → Except Failure α) (tx : Transaction)
    (pool : Pool (σ × List Entry)) :
    let outcome := exchange server.recording (.ok statement) read tx pool
    ∃ reply, outcome.1 = read reply ∧
      outcome.2.2.log = pool.log ++ [⟨tx.connection, statement, reply⟩] := by
  obtain ⟨reply, s, hsend⟩ := pool.send_recording server hnul tx.connection
  exact ⟨reply, by simp only [exchange, hsend], by simp only [exchange, hsend]; rfl⟩

/-- **Rows in bulk are sent once, and can be read.** Whatever the server is and whatever the number
of rows, one entry is noted where names are valid. What was sent behind the statement is, put
together, read as these rows: a line for each row and a field for each value, which denotes the
value. The result is the count that the server replies, or its failure. Where a name is not valid,
nothing is sent. -/
theorem copy_sends_rows (server : Server σ) (schema : String) {rows : Rows}
    (hrows : rows.rows ≠ []) (hne : ∀ row ∈ rows.rows, row ≠ [])
    (h : ∀ row ∈ rows.rows, ∀ v ∈ row, v.Valid) (tx : Transaction)
    (pool : Pool (σ × List Entry)) :
    let outcome := answer server.recording schema (.copy rows) tx pool
    answer server schema (.copy rows) tx pool.unrecorded =
      (outcome.1, outcome.2.1, outcome.2.2.unrecorded) ∧
    (Stateable schema (.copy rows) → ∃ sql sends reply lines,
      outcome.2.2.log = pool.log ++ [⟨tx.connection, .bulk sql sends, reply⟩] ∧
      readBulk? (sends.flatMap String.toList) = some lines ∧
      List.Forall₂ (List.Forall₂ Value.Denotes) lines rows.rows ∧
      (∀ count : Nat, reply = .count count → outcome.1 = .ok count) ∧
      ∀ fault, reply = .failed fault → outcome.1 = .error (.server fault)) ∧
    (¬Stateable schema (.copy rows) →
      outcome.2.2.log = pool.log ∧ ∃ message, outcome.1 = .error (.settings message)) := by
  intro outcome
  have hdemands : Demands (Stateable schema (.copy rows)) (bulkStatement schema rows) :=
    demands_statementOf schema (.copy rows)
  refine ⟨(mirrors_recording server schema).answer (.copy rows) tx pool, fun hnames => ?_,
    fun hnames => ?_⟩
  · obtain ⟨sql, hsql⟩ := hdemands.exists_ok_iff.2 hnames
    obtain ⟨lines, hread, hdenotes⟩ := readBulk?_bulkSends hne h
    have houtcome : outcome = exchange server.recording
        (.ok (.bulk sql ((bulkSends rows.rows).map String.ofList))) Reply.count? tx pool := by
      simp only [outcome, answer, if_neg hrows, hsql]
      rfl
    have hnul : '\x00' ∉
        (Statement.bulk sql ((bulkSends rows.rows).map String.ofList)).sql.toList :=
      withoutNul_of_bulkStatement hsql
    obtain ⟨reply, hresult, hlog⟩ := exchange_withoutNul server hnul Reply.count? tx pool
    rw [← houtcome] at hresult hlog
    refine ⟨sql, _, reply, lines, hlog, hread, hdenotes, ?_, ?_⟩
    · rintro count rfl
      exact hresult
    · rintro fault rfl
      exact hresult
  · obtain ⟨message, hfail⟩ := hdemands.exists_error hnames
    have houtcome : outcome = (.error (.settings message), tx, pool) := by
      simp only [outcome, answer, if_neg hrows, hfail]
      rfl
    rw [houtcome]
    exact ⟨rfl, message, rfl⟩

/-- A row of which each value could be taken for something else, and one of other kinds. -/
def tricky : Rows :=
  ⟨"notes.entry", ["a", "b", "c"],
    [[.null .text, .text "\\N", .text "\\."],
      [.text "\t\r\n", .textArray ["\"", "\\", "\t,"], .double (Number.Double.ofNat true 3)]]⟩

/-- The two rows go out in one buffer. -/
theorem copy_sends_rows_of_tricky :
    let sql := "COPY \"notes\".\"entry\" (\"a\", \"b\", \"c\") FROM STDIN WITH (FORMAT text)"
    let buffer := "\\N\t\\\\N\t\\\\.\n" ++
      "\\t\\r\\n\t\x7b\"\\\\\"\",\"\\\\\\\\\",\"\\t,\"\x7d\t-3\n"
    let outcome := answer Server.scripted.recording "public" (.copy tricky) ⟨4⟩
      { server := ([.count 2], []) }
    Stateable "public" (.copy tricky) ∧
    (∀ row ∈ tricky.rows, row ≠ [] ∧ ∀ v ∈ row, v.Valid) ∧
    outcome.1.toOption = some 2 ∧
    outcome.2.2.log = [⟨4, .bulk sql [buffer], .count 2⟩] ∧
    ∃ lines, readBulk? buffer.toList = some lines ∧
      lines.map (·.map (·.map String.ofList)) = [[none, some "\\N", some "\\."],
        [some "\t\r\n", some "\x7b\"\\\"\",\"\\\\\",\"\t,\"\x7d", some "-3"]] ∧
      List.Forall₂ (List.Forall₂ Value.Denotes) lines tricky.rows := by
  intro sql buffer outcome
  have hnames : Stateable "public" (.copy tricky) := ⟨by decide, by decide⟩
  have hrows : ∀ row ∈ tricky.rows, row ≠ [] ∧ ∀ v ∈ row, v.Valid := by decide +kernel
  have hlog : outcome.2.2.log = [⟨4, .bulk sql [buffer], .count 2⟩] := by decide +kernel
  obtain ⟨-, hsends, -⟩ :=
    copy_sends_rows Server.scripted "public" (by decide) (fun row hrow => (hrows row hrow).1)
      (fun row hrow => (hrows row hrow).2) ⟨4⟩ { server := ([.count 2], []) }
  obtain ⟨sql', sends, reply, lines, hentry, hread, hdenotes, -⟩ := hsends hnames
  obtain rfl : sends = [buffer] := by
    have hboth := hlog.symm.trans hentry
    simp only [Pool.log, List.nil_append, List.cons.injEq, Entry.mk.injEq, Statement.bulk.injEq]
      at hboth
    exact hboth.1.2.1.2.symm
  have hbuffer : [buffer].flatMap String.toList = buffer.toList := List.append_nil _
  rw [hbuffer] at hread
  refine ⟨hnames, hrows, by decide +kernel, hlog, lines, hread, ?_, hdenotes⟩
  have hlines : (readBulk? buffer.toList).map (·.map (·.map (·.map String.ofList))) =
      some [[none, some "\\N", some "\\."],
        [some "\t\r\n", some "\x7b\"\\\"\",\"\\\\\",\"\t,\"\x7d", some "-3"]] := by
    decide +kernel
  rw [hread] at hlines
  exact Option.some.inj hlines

end Postgres

end Registrar
