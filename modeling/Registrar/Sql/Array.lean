import Registrar.Text.Cut
/-!
# Arrays of texts

An array is written between braces with commas between its elements. Every element stands between
double quotes, and a backslash stands before each double quote and each backslash in it.
-/
namespace Registrar.Sql

/-- One character of an element. -/
def escapeElementChar (c : Char) : List Char :=
  if c = '\\' then ['\\', '\\'] else if c = '"' then ['\\', '"'] else [c]

/-- An element between double quotes. -/
def elementText (s : List Char) : List Char := '"' :: s.flatMap escapeElementChar ++ ['"']

/-- An array of texts (`postgres::array_literal`). -/
def arrayText (items : List String) : List Char :=
  '\x7b' :: Text.join [','] (items.map fun item => elementText item.toList) ++ ['\x7d']

@[simp] theorem arrayText_nil : arrayText [] = ['\x7b', '\x7d'] := rfl

end Registrar.Sql
