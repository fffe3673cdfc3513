import Registrar.Number.Shortest
/-!
# Layouts of floating point numbers

Three ways to write a number. The plain layout has the shortest digits and never an exponent; the
document layout has them too, and always shows that the number is not a whole number's literal, by
a point or by an exponent; the fixed layout has a given number of digits after the point.
-/
namespace Registrar.Number

namespace Double

/-- `digits` with the point after the first `point` of them. -/
def place (digits : List Char) (point : Int) : List Char :=
  let count : Int := digits.length
  if point ≤ 0 then '0' :: '.' :: List.replicate point.natAbs '0' ++ digits
  else if count ≤ point then digits ++ List.replicate (point - count).toNat '0'
  else digits.take point.toNat ++ '.' :: digits.drop point.toNat

def signed (negative : Bool) (s : List Char) : List Char := if negative then '-' :: s else s

/-- Sign and digits without an exponent, the fewest digits, of two nearest the upper. -/
def plain : Double → List Char
  | .nan => "NaN".toList
  | .infinite s => signed s "inf".toList
  | .finite s m e =>
    if m = 0 then signed s ['0']
    else
      let d := Decimal.shortest .up m e
      let digits := Number.digits d.digits
      signed s (place digits (digits.length + d.exponent))

/-- A finite number as documents hold it: positional from 1e-5 up to 1e16 and with an exponent
beyond; a whole number keeps one zero after the point. -/
def document : Double → List Char
  | .nan => "null".toList
  | .infinite _ => "null".toList
  | .finite s m e =>
    if m = 0 then signed s "0.0".toList
    else
      let d := Decimal.shortest .toEven m e
      let digits := Number.digits d.digits
      let point : Int := digits.length + d.exponent
      signed s <|
        if 0 ≤ d.exponent ∧ point ≤ 16 then place digits point ++ ['.', '0']
        else if -5 < point ∧ point ≤ 16 then place digits point
        else
          let mantissa := match digits with
            | [only] => [only]
            | first :: rest => first :: '.' :: rest
            | [] => []
          mantissa ++ 'e' :: Number.decimal (point - 1)

/-- A number with `places` digits after the point, rounded to the nearest, a half to the even
one. -/
def fixed (places : Nat) : Double → List Char
  | .nan => "NaN".toList
  | .infinite s => signed s "inf".toList
  | .finite s m e =>
    let (num, den) := ratio m e
    let digits := Number.padded (places + 1) (divideToEven (num * Nat.pow 10 places) den)
    let whole := digits.take (digits.length - places)
    signed s (if places = 0 then whole else whole ++ '.' :: digits.drop (digits.length - places))

end Double

end Registrar.Number
