import Registrar.Failure
import Registrar.Text.Cut
import Registrar.Text.Doubled
import Registrar.Text.Quoted
import Registrar.Text.Utf8
/-!
# Identifiers

The names of schemas, tables and columns cannot be parameters of a statement, so they are checked
and quoted: a quoted name stands between double quotes and holds every double quote twice.
-/
namespace Registrar.Sql

namespace Identifier

/-- The most bytes that a server keeps of a name (`identifier::MAX_IDENTIFIER_LENGTH`). -/
def longest : Nat := 63

/-- A name must not be empty, must not hold a NUL, and must not be cut off by the server
(`identifier::validate_identifier`). -/
def check (name : String) : Except Failure Unit :=
  let bytes := Text.utf8Length name.toList
  if name = "" then .error (.settings "Identifier cannot be empty")
  else if name.toList.contains '\x00' then
    .error (.settings
      s!"SECURITY: Identifier contains null byte (possible injection attempt): {Text.quoted name}")
  else if longest < bytes then
    .error (.settings (s!"SECURITY: Identifier exceeds maximum length of {longest} bytes "
      ++ s!"(got {bytes} bytes): {Text.quoted name}"))
  else .ok ()

theorem check_eq_ok_iff (name : String) :
    check name = .ok () ↔
      name ≠ "" ∧ '\x00' ∉ name.toList ∧ Text.utf8Length name.toList ≤ longest := by
  simp only [check]
  split <;> rename_i h1
  · simp [h1]
  split <;> rename_i h2
  · simp_all
  split <;> rename_i h3
  · simp; omega
  · simp_all

/-- A checked name between double quotes (`identifier::quote_pg`). -/
def quote (name : String) : Except Failure String := do
  check name
  return String.ofList (Text.enclosed '"' name.toList)

/-- A table in a schema (`identifier::qualify_pg`). -/
def qualify (schema table : String) : Except Failure String := do
  let schema ← quote schema
  let table ← quote table
  return schema ++ "." ++ table

/-- A table that may name its schema before a point, and stands in `schema` if it does not
(`identifier::qualify_table`). -/
def qualifyTable (schema table : String) : Except Failure String :=
  match Text.splitOnce? '.' table with
  | some (schema, table) => qualify schema table
  | none => qualify schema table

/-- Names of columns with commas between them (`identifier::quote_columns`). -/
def quoteColumns (columns : List String) : Except Failure String := do
  return ", ".intercalate (← columns.mapM quote)

end Identifier

end Registrar.Sql
