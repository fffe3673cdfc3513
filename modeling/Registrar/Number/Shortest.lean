import Registrar.Number.Double
import Registrar.Number.Whole
/-!
# The fewest digits that read back

A finite number is shown with the fewest decimal digits that lie in the interval of reals which
round to it, and of those with the digits nearest to it. For one digit, two digits, and so on, the
two neighbours of the number on that decimal grid are tested; the first grid with a hit wins.
-/
namespace Registrar.Number

/-- What happens where two shortest decimals are equally near. -/
inductive Tie
  | up
  | toEven
  deriving DecidableEq, Repr

/-- Digits and a power of ten: `digits * 10 ^ exponent`. -/
structure Decimal where
  digits : Nat
  exponent : Int
  deriving DecidableEq, Repr

namespace Decimal

/-- The same value without zeros at the end of its digits. `fuel` bounds the number of zeros. -/
def stripZeros : Nat → Decimal → Decimal
  | 0, d => d
  | fuel + 1, d =>
    if d.digits ≠ 0 ∧ d.digits % 10 = 0 then stripZeros fuel ⟨d.digits / 10, d.exponent + 1⟩ else d

/-- Whether `10 ^ exponent ≤ a / b`. -/
def powerLe (exponent : Int) (a b : Nat) : Bool :=
  if exponent < 0 then b ≤ a * Nat.pow 10 exponent.natAbs
  else b * Nat.pow 10 exponent.natAbs ≤ a

/-- The exponent of the leading digit of `a / b`, found by correcting an estimate upwards. -/
def leading (a b : Nat) : Nat → Int → Int
  | 0, e => e
  | fuel + 1, e => if powerLe (e + 1) a b then leading a b fuel (e + 1) else e

/-- `a / b` on the grid of `10 ^ exponent`: the numerator and denominator of their quotient. -/
def onGrid (exponent : Int) (a b : Nat) : Nat × Nat :=
  if exponent < 0 then (a * Nat.pow 10 exponent.natAbs, b)
  else (a, b * Nat.pow 10 exponent.natAbs)

/-- Whether `digits * 10 ^ place` rounds to `mantissa * 2 ^ exponent`. All quantities are multiples of
a quarter of the last place, so that the interval's ends are whole numbers. -/
def inside (mantissa : Nat) (exponent place : Int) (digits : Nat) : Bool :=
  let narrow := mantissa == Nat.pow 2 52 && Double.leastExponent < exponent
  let low := if narrow then 4 * mantissa - 1 else 4 * mantissa - 2
  let high := 4 * mantissa + 2
  let (unit, whole) := Double.ratio 1 (exponent - 2)
  let (x, y) := onGrid (-place) digits 1
  -- `x / y` against `low * unit / whole` and `high * unit / whole`
  let left := low * unit * y
  let right := high * unit * y
  let value := x * whole
  if mantissa % 2 == 0 then left ≤ value && value ≤ right else left < value && value < right

/-- The decimal of `count` digits, with its leading digit at `top`, that rounds to
`mantissa * 2 ^ exponent`, if there is one. -/
def withDigits? (tie : Tie) (mantissa : Nat) (exponent : Int) (top : Int) (count : Nat) :
    Option Decimal :=
  let place : Int := top - (count : Int) + 1
  let (num, den) := Double.ratio mantissa exponent
  let (a, b) := onGrid place num den
  let below := a / b
  let r := a % b
  let nearerAbove := b < 2 * r || (b == 2 * r && (tie == .up || below % 2 == 1))
  match inside mantissa exponent place below && below != 0,
      inside mantissa exponent place (below + 1) with
  | true, true => some ⟨if nearerAbove then below + 1 else below, place⟩
  | true, false => some ⟨below, place⟩
  | false, true => some ⟨below + 1, place⟩
  | false, false => none

/-- The first grid that has a decimal, from `count` digits on. -/
def search (tie : Tie) (mantissa : Nat) (exponent top : Int) : Nat → Nat → Decimal
  | 0, _ => ⟨mantissa, 0⟩
  | fuel + 1, count =>
    match withDigits? tie mantissa exponent top count with
    | some d => d
    | none => search tie mantissa exponent top fuel (count + 1)

/-- The shortest decimal that rounds to `mantissa * 2 ^ exponent`. -/
def shortest (tie : Tie) (mantissa : Nat) (exponent : Int) : Decimal :=
  if mantissa = 0 then ⟨0, 0⟩
  else
    let (a, b) := Double.ratio mantissa exponent
    let estimate := ((mantissa.log2 : Int) + exponent) * 30103 / 100000 - 1
    stripZeros 20 (search tie mantissa exponent (leading a b 4 estimate) 17 1)

end Decimal

end Registrar.Number
