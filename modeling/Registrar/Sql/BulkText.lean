import Registrar.Number.Layout
import Registrar.Sql.Array
import Registrar.Sql.Rows
/-!
# Bulk rows

Rows as they are sent in bulk: one a line, with tabs between the values. A null is written `\N`.
In every other value a backslash stands before a backslash and, with a letter, for a tab or a line
end, so none of the characters that set rows and values apart stands inside a value.
-/
namespace Registrar.Sql

/-- One character of a value. -/
def escapeBulkChar (c : Char) : List Char :=
  match c with
  | '\\' => ['\\', '\\']
  | '\t' => ['\\', 't']
  | '\n' => ['\\', 'n']
  | '\r' => ['\\', 'r']
  | _ => [c]

/-- A text as a value (`postgres::escape_copy_text`). -/
def escapeBulk (s : List Char) : List Char := s.flatMap escapeBulkChar

/-- A value (`postgres::sql_value_to_copy_text`). -/
def bulkText : Value → List Char
  | .null _ => ['\\', 'N']
  | .bool b => if b then ['t'] else ['f']
  | .smallint n | .integer n | .bigint n => Number.decimal n
  | .double x => x.plain
  | .text s => escapeBulk s.toList
  | .textArray items => escapeBulk (arrayText items)
  | .date d => d.text
  | .timestamp t => t.text

/-- A row and its line end. -/
def bulkLine (row : List Value) : List Char := Text.join ['\t'] (row.map bulkText) ++ ['\n']

/-- How many rows are sent at once (`postgres::COPY_FLUSH_ROWS`). -/
def rowsASend : Nat := 10000

/-- The texts that are sent one after another for some rows (`PgTx::copy_rows`). -/
def bulkSends (rows : List (List Value)) : List (List Char) :=
  (chunk rowsASend rows).map fun rows => rows.flatMap bulkLine

/-- Together, the texts that are sent are the lines of all rows. -/
theorem flatten_bulkSends (rows : List (List Value)) :
    (bulkSends rows).flatten = rows.flatMap bulkLine := by
  have h : ∀ chunks : List (List (List Value)),
      (chunks.map fun rows => rows.flatMap bulkLine).flatten = chunks.flatten.flatMap bulkLine := by
    intro chunks
    induction chunks with
    | nil => rfl
    | cons c rest ih => simp [ih]
  rw [bulkSends, h, flatten_chunk]

end Registrar.Sql
