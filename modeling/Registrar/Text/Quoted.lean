import Registrar.Text.Unprinted
/-!
# Quoted texts

The form in which messages show a text that may hold anything: between double quotes, with a
backslash before a quote or a backslash, short escapes for NUL, tab, line feed and carriage
return, and the code point of every other character that would not be seen as itself.
-/
namespace Registrar.Text

/-- One character inside a quoted text. -/
def quoteChar (c : Char) : List Char :=
  match c with
  | '\x00' => ['\\', '0']
  | '\t' => ['\\', 't']
  | '\n' => ['\\', 'n']
  | '\r' => ['\\', 'r']
  | '"' => ['\\', '"']
  | '\\' => ['\\', '\\']
  | _ =>
    if isUnprinted c then
      ['\\', 'u', '\x7b'] ++ Nat.toDigits 16 c.toNat ++ ['\x7d']
    else [c]

/-- The text as messages quote it. -/
def quoted (s : String) : String :=
  String.ofList ('"' :: s.toList.flatMap quoteChar ++ ['"'])

end Registrar.Text
