import Registrar.Number.Double
import Registrar.Number.Whole
/-!
# Reading floating point numbers

A decimal text stands for the nearest number of double precision. The text has an optional sign,
digits with an optional point among or around them, and an optional exponent; not-a-number and
infinity are written as words in any letter case.
-/
namespace Registrar.Number

namespace Double

/-- The digits at the start of a text, and the rest. -/
def spanDigits (s : List Char) : List Char × List Char :=
  (s.takeWhile isDigit, s.dropWhile isDigit)

/-- The number a run of digits stands for. -/
def digitsValue (s : List Char) : Nat :=
  s.foldl (fun n c => n * 10 + (digit? c).getD 0) 0

/-- An exponent part that makes up the whole text; no text is the exponent zero. -/
def readExponent? : List Char → Option Int
  | [] => some 0
  | e :: rest =>
    if e = 'e' ∨ e = 'E' then
      let (negative, digits) := match rest with
        | '-' :: digits => (true, digits)
        | '+' :: digits => (false, digits)
        | digits => (false, digits)
      if digits ≠ [] ∧ digits.all isDigit then
        let n : Int := digitsValue digits
        some (if negative then -n else n)
      else none
    else none

/-- Digits, point and exponent without a sign. -/
def readUnsigned? (negative : Bool) (s : List Char) : Option Double :=
  let (whole, rest) := spanDigits s
  let (part, rest) := match rest with
    | '.' :: rest => spanDigits rest
    | _ => ([], rest)
  if whole = [] ∧ part = [] then none
  else (readExponent? rest).map fun e =>
    ofScientific negative (digitsValue (whole ++ part)) (e - (part.length : Int))

/-- The number a text stands for. -/
def read? (s : List Char) : Option Double :=
  let (negative, body) := match s with
    | '-' :: rest => (true, rest)
    | '+' :: rest => (false, rest)
    | _ => (false, s)
  let word := body.map Char.toLower
  if word = "nan".toList then some .nan
  else if word = "inf".toList ∨ word = "infinity".toList then some (.infinite negative)
  else readUnsigned? negative body

end Double

end Registrar.Number
