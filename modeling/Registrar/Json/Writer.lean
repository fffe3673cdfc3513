import Registrar.Json.Basic
import Registrar.Number.Layout
/-!
# Writing JSON

Two forms of a document: on one line without blanks, and indented by two spaces a level. A text is
escaped where the format demands it and nowhere else. An empty array or object has no lines
inside it in either form.
-/
namespace Registrar.Json

/-- One character inside a text. -/
def escapeChar (c : Char) : List Char :=
  match c with
  | '"' => ['\\', '"']
  | '\\' => ['\\', '\\']
  | '\x08' => ['\\', 'b']
  | '\x0c' => ['\\', 'f']
  | '\n' => ['\\', 'n']
  | '\r' => ['\\', 'r']
  | '\t' => ['\\', 't']
  | _ =>
    if c.toNat < 0x20 then
      ['\\', 'u', '0', '0'] ++ [Nat.digitChar (c.toNat / 16), Nat.digitChar (c.toNat % 16)]
    else [c]

/-- A text between quotes. -/
def quote (s : String) : List Char := '"' :: s.toList.flatMap escapeChar ++ ['"']

/-- How the parts of an array or an object are set apart. -/
structure Style where
  /-- What stands before a part and before the closing bracket, at a nesting depth. -/
  lineBreak : Nat → List Char
  /-- What stands between a name and its value. -/
  colon : List Char

/-- Everything on one line. -/
def Style.compact : Style := ⟨fun _ => [], [':']⟩

/-- Two spaces a level. -/
def Style.indented : Style := ⟨fun n => '\n' :: List.replicate (2 * n) ' ', [':', ' ']⟩

mutual

/-- The document at a nesting depth. -/
def writeAt (style : Style) (depth : Nat) : Json → List Char
  | .null => "null".toList
  | .bool b => if b then "true".toList else "false".toList
  | .int n => Number.decimal n
  | .float x => x.document
  | .text s => quote s
  | .array [] => ['[', ']']
  | .array (item :: rest) =>
    '[' :: style.lineBreak (depth + 1) ++ writeAt style (depth + 1) item
      ++ writeItems style (depth + 1) rest ++ style.lineBreak depth ++ [']']
  | .object [] => ['\x7b', '\x7d']
  | .object ((name, item) :: rest) =>
    '\x7b' :: style.lineBreak (depth + 1) ++ quote name ++ style.colon
      ++ writeAt style (depth + 1) item
      ++ writeFields style (depth + 1) rest ++ style.lineBreak depth ++ ['\x7d']

/-- The items after the first. -/
def writeItems (style : Style) (depth : Nat) : List Json → List Char
  | [] => []
  | item :: rest =>
    ',' :: style.lineBreak depth ++ writeAt style depth item ++ writeItems style depth rest

/-- The fields after the first. -/
def writeFields (style : Style) (depth : Nat) : List (String × Json) → List Char
  | [] => []
  | (name, item) :: rest =>
    ',' :: style.lineBreak depth ++ quote name ++ style.colon ++ writeAt style depth item
      ++ writeFields style depth rest

end

/-- The document on one line. -/
def compact (document : Json) : String := String.ofList (writeAt .compact 0 document)

/-- The document with two spaces a level. -/
def pretty (document : Json) : String := String.ofList (writeAt .indented 0 document)

end Registrar.Json
