import Registrar.Json.Basic
import Registrar.Number.Whole
import Registrar.Text.Utf8
/-!
# Reading JSON

A text is read from left to right and the first fault ends the reading. A fault is placed by the
number of bytes that were not read yet: an unexpected character counts as read with its first
byte. Arrays and objects nest 127 deep at most.

A number with a point or an exponent is read as a whole significand of at most 64 bits times a
power of ten; digits beyond those that fit are dropped, and the product is rounded once for the
significand and once for each power.
-/
namespace Registrar.Json

/-- Why a text is not a JSON document. -/
inductive Reason
  | endInValue
  | endInList
  | endInObject
  | endInString
  | expectedValue
  | expectedIdent
  | expectedColon
  | expectedListComma
  | expectedObjectComma
  | keyNotString
  | trailingComma
  | trailingCharacters
  | invalidNumber
  | numberOutOfRange
  | invalidEscape
  | loneSurrogate
  | unfinishedSurrogate
  | controlCharacter
  | tooDeep
  deriving DecidableEq, Repr

def Reason.message : Reason → String
  | .endInValue => "EOF while parsing a value"
  | .endInList => "EOF while parsing a list"
  | .endInObject => "EOF while parsing an object"
  | .endInString => "EOF while parsing a string"
  | .expectedValue => "expected value"
  | .expectedIdent => "expected ident"
  | .expectedColon => "expected `:`"
  | .expectedListComma => "expected `,` or `]`"
  | .expectedObjectComma => "expected `,` or `\x7d`"
  | .keyNotString => "key must be a string"
  | .trailingComma => "trailing comma"
  | .trailingCharacters => "trailing characters"
  | .invalidNumber => "invalid number"
  | .numberOutOfRange => "number out of range"
  | .invalidEscape => "invalid escape"
  | .loneSurrogate => "lone leading surrogate in hex escape"
  | .unfinishedSurrogate => "unexpected end of hex escape"
  | .controlCharacter => "control character (\\u0000-\\u001F) found while parsing a string"
  | .tooDeep => "recursion limit exceeded"

/-- A fault and the number of bytes that were not read when it was found. -/
structure Fault where
  reason : Reason
  left : Nat
  deriving DecidableEq, Repr

/-- Something read from the start of a text, with the rest of the text. -/
abbrev WithRest (α : Type) := α × List Char

namespace Reader

open Number (Double digit? isDigit)

/-- A fault before the rest of the text. -/
def failAt {α : Type} (reason : Reason) (rest : List Char) : Except Fault α :=
  .error ⟨reason, Text.utf8Length rest⟩

/-- A fault at the first byte of the rest of the text. -/
def failOn {α : Type} (reason : Reason) (rest : List Char) : Except Fault α :=
  .error ⟨reason, Text.utf8Length rest - 1⟩

def isSpace (c : Char) : Bool := c == ' ' || c == '\t' || c == '\n' || c == '\r'

def skipSpace (s : List Char) : List Char := s.dropWhile isSpace

/-! ## Strings -/

/-- The four hexadecimal digits of an escape. Four bytes count as read even if they are not
digits. -/
def hexEscape (s : List Char) : Except Fault (WithRest Nat) :=
  if Text.utf8Length (s.take 4) < 4 then .error ⟨.endInString, 0⟩
  else
    let bad := Except.error ⟨.invalidEscape, Text.utf8Length s - 4⟩
    match s with
    | a :: b :: c :: d :: rest =>
      match Number.hexDigit? a, Number.hexDigit? b, Number.hexDigit? c, Number.hexDigit? d with
      | some a, some b, some c, some d => .ok (((a * 16 + b) * 16 + c) * 16 + d, rest)
      | _, _, _, _ => bad
    | _ => bad

/-- A code point of the four digits after the letter of an escape; two escapes make up a
code point beyond 16 bits. -/
def unicodeEscape (s : List Char) : Except Fault (WithRest Char) := do
  let (n, s) ← hexEscape s
  if 0xDC00 ≤ n ∧ n ≤ 0xDFFF then failAt .loneSurrogate s
  else if n < 0xD800 ∨ 0xDBFF < n then return (Char.ofNat n, s)
  else match s with
    | '\\' :: 'u' :: s => do
      let (m, s) ← hexEscape s
      if m < 0xDC00 ∨ 0xDFFF < m then failAt .loneSurrogate s
      else return (Char.ofNat ((n - 0xD800) * 0x400 + (m - 0xDC00) + 0x10000), s)
    | '\\' :: s => if s = [] then failAt .endInString s else failOn .unfinishedSurrogate s
    | _ => if s = [] then failAt .endInString s else failOn .unfinishedSurrogate s

/-- The character after a backslash. -/
def escape : List Char → Except Fault (WithRest Char)
  | [] => failAt .endInString []
  | '"' :: rest => .ok ('"', rest)
  | '\\' :: rest => .ok ('\\', rest)
  | '/' :: rest => .ok ('/', rest)
  | 'b' :: rest => .ok ('\x08', rest)
  | 'f' :: rest => .ok ('\x0c', rest)
  | 'n' :: rest => .ok ('\n', rest)
  | 'r' :: rest => .ok ('\r', rest)
  | 't' :: rest => .ok ('\t', rest)
  | 'u' :: rest => unicodeEscape rest
  | s => failOn .invalidEscape s

/-- The characters up to the closing quote, onto those read before in reverse; `fuel` bounds their
number. -/
def stringFrom (before : List Char) : Nat → List Char → Except Fault (WithRest String)
  | 0, s => failAt .endInString s
  | _, [] => failAt .endInString []
  | fuel + 1, c :: rest =>
    if c = '"' then .ok (String.ofList before.reverse, rest)
    else if c = '\\' then do
      let (d, rest) ← escape rest
      stringFrom (d :: before) fuel rest
    else if c.toNat < 0x20 then failOn .controlCharacter (c :: rest)
    else stringFrom (c :: before) fuel rest

/-! ## Numbers -/

def greatestSignificand : Nat := 18446744073709551615

/-- Digits read onto a significand, as many as 64 bits hold. -/
def significand (value : Nat) : List Char → Nat × List Char
  | [] => (value, [])
  | c :: rest =>
    match digit? c with
    | none => (value, c :: rest)
    | some d =>
      if greatestSignificand < value * 10 + d then (value, c :: rest)
      else significand (value * 10 + d) rest

/-- `value * 10 ^ exponent`, rounded for each power of ten that is multiplied or divided by;
none if it is too large. Two steps of 308 places make any significand zero. -/
def scaled? : Nat → Double → Int → Option Double
  | 0, x, _ => some x
  | fuel + 1, x, exponent =>
    if exponent.natAbs ≤ 308 then
      let power := Double.ofNat false (Nat.pow 10 exponent.natAbs)
      if 0 ≤ exponent then
        match x.times power with
        | .infinite _ => none
        | y => some y
      else some (x.divide power)
    else if x.isZero then some x
    else if 0 ≤ exponent then none
    else scaled? fuel (x.divide (Double.ofNat false (Nat.pow 10 308))) (exponent + 308)

/-- The number of a significand and an exponent, or a fault where it is too large. -/
def ofParts (negative : Bool) (value : Nat) (exponent : Int) (rest : List Char) : Except Fault (WithRest Json) :=
  match scaled? 8 (Double.ofNat false value) exponent with
  | some x => .ok (.float (if negative then x.negate else x), rest)
  | none => failAt .numberOutOfRange rest

def greatestExponent : Nat := 2147483647

/-- The digits of an exponent after the first, which `value` holds. -/
def exponentDigits (negative below : Bool) (significandZero : Bool) (value : Nat) :
    List Char → Except Fault (Option Nat × List Char)
  | [] => .ok (some value, [])
  | c :: rest =>
    match digit? c with
    | none => .ok (some value, c :: rest)
    | some d =>
      if greatestExponent < value * 10 + d then
        if !significandZero && !below then failAt .numberOutOfRange rest
        else .ok (none, rest.dropWhile isDigit)
      else exponentDigits negative below significandZero (value * 10 + d) rest

/-- The exponent after its letter. -/
def exponentPart (negative : Bool) (value : Nat) (start : Int) (s : List Char) : Except Fault (WithRest Json) := do
  let (below, s) := match s with
    | '+' :: rest => (false, rest)
    | '-' :: rest => (true, rest)
    | _ => (false, s)
  match s with
  | [] => failAt .endInValue []
  | c :: rest =>
    match digit? c with
    | none => failOn .invalidNumber s
    | some d =>
      let (n, rest) ← exponentDigits negative below (value == 0) d rest
      match n with
      | none => return (.float (Double.zero negative), rest)
      | some n => ofParts negative value (if below then start - n else start + n) rest

/-- What may follow the digits of a number that is not whole. -/
def fractionEnd (negative : Bool) (value : Nat) (exponent : Int) (s : List Char) : Except Fault (WithRest Json) :=
  match s with
  | 'e' :: rest => exponentPart negative value exponent rest
  | 'E' :: rest => exponentPart negative value exponent rest
  | _ => ofParts negative value exponent s

/-- The digits after the point. -/
def fractionPart (negative : Bool) (value : Nat) (start : Int) (s : List Char) : Except Fault (WithRest Json) :=
  let (value, rest) := significand value s
  let exponent := start - ((s.length - rest.length : Nat) : Int)
  match s with
  | [] => failAt .endInValue []
  | c :: _ =>
    if isDigit c then fractionEnd negative value exponent (rest.dropWhile isDigit)
    else failOn .invalidNumber s

/-- A whole number of 64 bits; a number below zero that 64 bits with a sign do not hold is a
floating point number, and so is zero with a minus sign. -/
def whole (negative : Bool) (value : Nat) : Json :=
  if negative then
    if value = 0 ∨ Nat.pow 2 63 < value then .float (Double.ofNat true value) else .int (-value)
  else .int value

/-- A number after its sign. -/
def number (negative : Bool) (s : List Char) : Except Fault (WithRest Json) :=
  let tail (value : Nat) (rest : List Char) : Except Fault (WithRest Json) :=
    match rest with
    | '.' :: rest => fractionPart negative value 0 rest
    | 'e' :: rest => exponentPart negative value 0 rest
    | 'E' :: rest => exponentPart negative value 0 rest
    | _ => .ok (whole negative value, rest)
  match s with
  | [] => failAt .endInValue []
  | '0' :: rest =>
    match rest with
    | d :: _ => if isDigit d then failOn .invalidNumber rest else tail 0 rest
    | [] => tail 0 rest
  | c :: _ =>
    if isDigit c then
      let (value, rest) := significand 0 s
      let dropped := rest.takeWhile isDigit
      match dropped with
      | [] => tail value rest
      | _ =>
        let rest := rest.drop dropped.length
        match rest with
        | '.' :: rest => fractionPart negative value dropped.length rest
        | _ => fractionEnd negative value dropped.length rest
    else failOn .invalidNumber s

/-! ## Documents -/

/-- The rest of a word after its first letter. -/
def word (expected : List Char) (s : List Char) : Except Fault (List Char) :=
  match expected, s with
  | [], _ => .ok s
  | _ :: _, [] => failAt .endInValue []
  | e :: expected, c :: rest =>
    if c = e then word expected rest else failOn .expectedIdent (c :: rest)

/-- How deep arrays and objects may nest. -/
def deepest : Nat := 127

mutual

/-- A document, after blanks. `depth` is how much deeper it may nest. -/
def value (depth : Nat) : Nat → List Char → Except Fault (WithRest Json)
  | 0, s => failAt .endInValue s
  | fuel + 1, s =>
    match skipSpace s with
    | [] => failAt .endInValue []
    | 'n' :: rest => do return (.null, ← word "ull".toList rest)
    | 't' :: rest => do return (.bool true, ← word "rue".toList rest)
    | 'f' :: rest => do return (.bool false, ← word "alse".toList rest)
    | '-' :: rest => number true rest
    | '"' :: rest => do
      let (s, rest) ← stringFrom [] fuel rest
      return (.text s, rest)
    | '[' :: rest =>
      match depth with
      | 0 => failOn .tooDeep ('[' :: rest)
      | depth + 1 => do
        let (items, rest) ← items depth true [] fuel rest
        return (.array items, rest)
    | '\x7b' :: rest =>
      match depth with
      | 0 => failOn .tooDeep ('\x7b' :: rest)
      | depth + 1 => do
        let (fields, rest) ← fields depth true [] fuel rest
        return (.object fields, rest)
    | c :: rest => if isDigit c then number false (c :: rest) else failOn .expectedValue (c :: rest)

/-- The items of an array up to its end, onto those read before in reverse. -/
def items (depth : Nat) (first : Bool) (before : List Json) : Nat → List Char → Except Fault (WithRest (List Json))
  | 0, s => failAt .endInList s
  | fuel + 1, s =>
    let next (s : List Char) : Except Fault (WithRest (List Json)) := do
      let (item, rest) ← value depth fuel s
      items depth false (item :: before) fuel rest
    match skipSpace s with
    | [] => failAt .endInList []
    | ']' :: rest => .ok (before.reverse, rest)
    | c :: rest =>
      if first then next (c :: rest)
      else if c = ',' then
        match skipSpace rest with
        | [] => failAt .endInValue []
        | ']' :: rest => failOn .trailingComma (']' :: rest)
        | s => next s
      else failOn .expectedListComma (c :: rest)

/-- The fields of an object up to its end, onto those read before. -/
def fields (depth : Nat) (first : Bool) (before : List (String × Json)) :
    Nat → List Char → Except Fault (WithRest (List (String × Json)))
  | 0, s => failAt .endInObject s
  | fuel + 1, s =>
    let next (s : List Char) : Except Fault (WithRest (List (String × Json))) := do
      let (name, rest) ← stringFrom [] fuel s
      match skipSpace rest with
      | [] => failAt .endInObject []
      | ':' :: rest => do
        let (item, rest) ← value depth fuel rest
        fields depth false (insert name item before) fuel rest
      | s => failOn .expectedColon s
    match skipSpace s with
    | [] => failAt .endInObject []
    | '\x7d' :: rest => .ok (before, rest)
    | c :: rest =>
      if first then
        if c = '"' then next rest else failOn .keyNotString (c :: rest)
      else if c = ',' then
        match skipSpace rest with
        | [] => failAt .endInValue []
        | '"' :: rest => next rest
        | '\x7d' :: rest => failOn .trailingComma ('\x7d' :: rest)
        | s => failOn .keyNotString s
      else failOn .expectedObjectComma (c :: rest)

end

/-- The line and the column, in bytes, at which `count` bytes have been read. -/
def position (line column : Nat) : Nat → List Char → Nat × Nat
  | _, [] => (line, column)
  | count, c :: rest =>
    if count < c.utf8Size then (line, column + count)
    else if c = '\n' then position (line + 1) 0 (count - 1) rest
    else position line (column + c.utf8Size) (count - c.utf8Size) rest

end Reader

open Reader in
/-- The document a text stands for. -/
def read (s : List Char) : Except Fault Json := do
  let (document, rest) ← value deepest (2 * s.length + 1) s
  match skipSpace rest with
  | [] => return document
  | rest => failOn .trailingCharacters rest

/-- The fault with its line and column in the text that was read. -/
def Fault.message (text : List Char) (f : Fault) : String :=
  let (line, column) := Reader.position 1 0 (Text.utf8Length text - f.left) text
  s!"{f.reason.message} at line {line} column {column}"

/-- The document a text stands for, or what a message says of it. -/
def readText (s : String) : Except String Json :=
  match read s.toList with
  | .ok document => .ok document
  | .error f => .error (f.message s.toList)

end Registrar.Json
