import Registrar.Failure
/-!
# Comma-separated records

A file of records, one a line. A field that starts with a quote ends with one; inside it commas
and line ends are part of the field and a doubled quote stands for one. Blank lines hold no
record.
-/
namespace Registrar.Legacy.Csv

/-- What has been read of the record at hand, all of it in reverse, and the records before it. -/
structure Progress where
  records : List (List String) := []
  record : List String := []
  field : List Char := []

namespace Progress

def push (c : Char) (p : Progress) : Progress := { p with field := c :: p.field }

/-- The field at hand is complete. -/
def endField (p : Progress) : Progress :=
  { p with record := String.ofList p.field.reverse :: p.record, field := [] }

/-- The record at hand is complete (`csv::end_record`). A line with neither a field nor a character
is no record. -/
def endRecord (p : Progress) : Progress :=
  if p.record = [] ∧ p.field = [] then p
  else
    let p := p.endField
    { records := p.record.reverse :: p.records }

end Progress

mutual

/-- Reads on outside quotes; `line` is the number of the line at hand. -/
def plain (line : Nat) (p : Progress) : List Char → Except Nat (List (List String))
  | [] => .ok p.endRecord.records.reverse
  | '"' :: rest => if p.field = [] then inside line p rest else plain line (p.push '"') rest
  | ',' :: rest => plain line p.endField rest
  | '\r' :: '\n' :: rest => plain (line + 1) p.endRecord rest
  | '\n' :: rest => plain (line + 1) p.endRecord rest
  | c :: rest => plain line (p.push c) rest

/-- Reads on inside quotes; the fault is the line on which the text ends there. -/
def inside (line : Nat) (p : Progress) : List Char → Except Nat (List (List String))
  | [] => .error line
  | '"' :: '"' :: rest => inside line (p.push '"') rest
  | '"' :: rest => plain line p rest
  | '\n' :: rest => inside (line + 1) (p.push '\n') rest
  | c :: rest => inside line (p.push c) rest

end

/-- The records of a file (`csv::parse`). -/
def read (name : String) (text : List Char) : Except Failure (List (List String)) :=
  match plain 1 {} text with
  | .ok records => .ok records
  | .error line => .error (.legacy name s!"unterminated quoted field at line {line}")

end Registrar.Legacy.Csv
