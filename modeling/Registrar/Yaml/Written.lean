import Registrar.Text.Utf8
import Registrar.Yaml.Plain
/-!
# Writing scalars

A text is written plain where it can be: where that says nothing else and needs no quotes. A text
of several lines is written as a literal block, any other one between single quotes, and a text
that neither of these can hold between double quotes. `Form.of` chooses, `write` writes.

Lines inside a scalar are indented by four spaces, as a value in the second level of a document
is.
-/
namespace Registrar.Yaml

namespace Written

/-- Characters that end a line where a text is written. -/
def endsLine (c : Char) : Bool :=
  c = '\n' || c = '\r' || c = '\u0085' || c = '\u2028' || c = '\u2029'

/-- Whether the text ends here, or a blank, a line end or a NUL stands here. -/
def atBlank : List Char → Bool
  | [] => true
  | c :: _ => c = ' ' || c = '\t' || c = '\x00' || endsLine c

/-- Characters that are written as they are, a line feed included. -/
def isPrintable (c : Char) : Bool :=
  let n := c.toNat
  n = 0x0A || (0x20 ≤ n && n ≤ 0x7E) || (0xA0 ≤ n && n ≤ 0xFFFD && n ≠ 0xFEFF) || 0x10000 ≤ n

/-- Characters with a meaning of their own at the start of a node. -/
def isIndicator (c : Char) : Bool :=
  c ∈ ['#', ',', '[', ']', '\x7b', '\x7d', '&', '*', '!', '|', '>', '\'', '"', '%', '@', '\x60']

/-- Whether a plain scalar cannot start like this. -/
def badStart : List Char → Bool
  | [] => false
  | c :: rest =>
    isIndicator c || ((c = '?' || c = '-') && atBlank rest)
      || (c :: rest).take 3 = ['-', '-', '-'] || (c :: rest).take 3 = ['.', '.', '.']

/-- Whether a colon before a blank, or a number sign behind one, stands in the text. -/
def hasMark (afterBlank : Bool) : List Char → Bool
  | [] => false
  | c :: rest =>
    (c = ':' && atBlank rest) || (c = '#' && afterBlank) || hasMark (atBlank [c]) rest

/-- Whether a character for which `first` holds stands directly before one for which `second`
holds. -/
def hasPair (first second : Char → Bool) : List Char → Bool
  | a :: b :: rest => (first a && second b) || hasPair first second (b :: rest)
  | _ => false

/-- Whether a character for which `p` holds stands at one of the ends. -/
def atEnds (p : Char → Bool) (s : List Char) : Bool := s.head?.any p || s.getLast?.any p

end Written

open Written

/-- How a text is written. -/
inductive Form
  | plain
  | single
  | double
  | literal
  deriving DecidableEq, Repr

/-- Whether only double quotes can hold the text. -/
def needsDouble (s : List Char) : Bool :=
  hasPair (· = ' ') endsLine s || !s.all isPrintable

/-- The form of a text. -/
def Form.of (s : List Char) : Form :=
  if '\n' ∈ s then
    if needsDouble s || s.getLast? = some ' ' then .double else .literal
  else if needsDouble s then .double
  else if !Plain.isAmbiguous s && !badStart s && !hasMark true s
      && !atEnds (fun c => c = ' ' || endsLine c) s && !s.any endsLine then .plain
  else if hasPair endsLine (· = ' ') s then .double
  else .single

namespace Written

/-- The indentation of lines inside a scalar. -/
def indentation : List Char := List.replicate 4 ' '

/-- The text with what `before` puts in front of a character, given whether a line ended just
before it; `atEnd` stands at the end if a line ended there. -/
def indented (before : Char → List Char) (atEnd : List Char) (broken : Bool) :
    List Char → List Char
  | [] => if broken then atEnd else []
  | c :: rest =>
    if endsLine c then c :: indented before atEnd true rest
    else (if broken then indentation else []) ++ before c ++ c :: indented before atEnd false rest

/-- How the end of a literal block is marked: a minus where no line ends there, a plus where an
empty line does. -/
def chompingMark (s : List Char) : List Char :=
  match s.reverse with
  | last :: rest =>
    if !endsLine last then ['-']
    else match rest with
      | [] => ['+']
      | c :: _ => if endsLine c then ['+'] else []
  | [] => ['-']

/-- The digits of a number in hexadecimal with a width. -/
def hexPadded (width n : Nat) : List Char :=
  let digits := (Nat.toDigits 16 n).map Char.toUpper
  List.replicate (width - digits.length) '0' ++ digits

/-- A character between double quotes. -/
def escape (c : Char) : List Char :=
  match c with
  | '\x00' => ['\\', '0']
  | '\x07' => ['\\', 'a']
  | '\x08' => ['\\', 'b']
  | '\t' => ['\\', 't']
  | '\n' => ['\\', 'n']
  | '\x0b' => ['\\', 'v']
  | '\x0c' => ['\\', 'f']
  | '\r' => ['\\', 'r']
  | '\x1b' => ['\\', 'e']
  | '"' => ['\\', '"']
  | '\\' => ['\\', '\\']
  | '\u0085' => ['\\', 'N']
  | '\u2028' => ['\\', 'L']
  | '\u2029' => ['\\', 'P']
  | _ =>
    let n := c.toNat
    if isPrintable c then [c]
    else if n ≤ 0xFF then '\\' :: 'x' :: hexPadded 2 n
    else if n ≤ 0xFFFF then '\\' :: 'u' :: hexPadded 4 n
    else '\\' :: 'U' :: hexPadded 8 n

end Written

/-- The text in a form. -/
def Form.write (form : Form) (s : List Char) : List Char :=
  match form with
  | .plain => s
  | .single =>
    let quote (c : Char) : List Char := if c = '\'' then ['\''] else []
    '\'' :: indented quote indentation false s ++ ['\'']
  | .double => '"' :: s.flatMap escape ++ ['"']
  | .literal =>
    let width := if s.head?.any fun c => c = ' ' || endsLine c then ['2'] else []
    '|' :: width ++ chompingMark s ++ '\n' :: indented (fun _ => []) [] true s

/-- A scalar of a text. -/
def write (s : String) : List Char := (Form.of s.toList).write s.toList

/-- A field of a mapping in the second level of a document, up to the start of the next line. -/
def writeField (name : String) (value : List Char) : List Char :=
  let line := "  ".toList ++ name.toList ++ ": ".toList ++ value
  if line.getLast?.any endsLine then line else line ++ ['\n']

end Registrar.Yaml
