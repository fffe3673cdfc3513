import Registrar.Number.Layout
import Registrar.Sql.Array
import Registrar.Sql.Value
import Registrar.Text.Doubled
/-!
# Literals

Values as they stand in the text of a statement. Texts stand between single quotes, each of which
is written twice inside; a null, a floating point number and every value that is written as a text
but is none says its type behind two colons.
-/
namespace Registrar.Sql

/-- A text between single quotes (`postgres::escape_sql_string`). -/
def quoteText (s : List Char) : List Char := Text.enclosed '\'' s

/-- A literal that says its type. -/
def typed (literal : List Char) (kind : Kind) : List Char :=
  literal ++ ':' :: ':' :: kind.typeName.toList

/-- The literal of a value (`postgres::sql_value_to_literal`). -/
def literal : Value → List Char
  | .null kind => typed "NULL".toList kind
  | .bool b => if b then "TRUE".toList else "FALSE".toList
  | .smallint n | .integer n | .bigint n => Number.decimal n
  | .double x => typed x.plain .double
  | .text s => quoteText s.toList
  | .textArray items => typed (quoteText (arrayText items)) .textArray
  | .date d => typed (quoteText d.text) .date
  | .timestamp t => typed (quoteText t.text) .timestamp

/-- The literals of a row in parentheses. -/
def rowText (row : List Value) : List Char :=
  '(' :: Text.join [',', ' '] (row.map literal) ++ [')']

/-- The statement that inserts rows (`postgres::build_insert_sql_literals`). The names of the table
and of the columns are quoted already. -/
def insertText (table columns : String) (rows : List (List Value)) : List Char :=
  "INSERT INTO ".toList ++ table.toList ++ " (".toList ++ columns.toList ++ ") VALUES ".toList
    ++ Text.join [',', ' '] (rows.map rowText)

end Registrar.Sql
