/-!
# Binary floating point

Numbers of double precision as data: a sign, a mantissa below 2^53 and an exponent of two. Every
result that is not exact goes to the nearest number, a tie to the even mantissa (`ofRatio`), so
arithmetic is done on whole numbers throughout.
-/
namespace Registrar.Number

/-- A number of double precision. A finite number is `mantissa * 2 ^ exponent`; `ofRatio` builds
only mantissas of 53 bits, or shorter ones at the least exponent. -/
inductive Double
  | nan
  | infinite (negative : Bool)
  | finite (negative : Bool) (mantissa : Nat) (exponent : Int)
  deriving DecidableEq, Repr, Inhabited

namespace Double

/-- The exponent of the least positive number. -/
def leastExponent : Int := -1074

/-- The exponent of the greatest numbers. -/
def greatestExponent : Int := 971

def zero (negative : Bool) : Double := .finite negative 0 leastExponent

/-- The quotient to the nearest whole number, a half to the even one. -/
def divideToEven (num den : Nat) : Nat :=
  let q := num / den
  let r := num % den
  if 2 * r < den then q
  else if den < 2 * r then q + 1
  else if q % 2 = 0 then q else q + 1

/-- The numerator and denominator of `num / den * 2 ^ (-q)`. -/
def scale (num den : Nat) (q : Int) : Nat × Nat :=
  if q < 0 then (num * Nat.pow 2 q.natAbs, den) else (num, den * Nat.pow 2 q.natAbs)

/-- The number nearest to `num / den`. -/
def ofRatio (negative : Bool) (num den : Nat) : Double :=
  if num = 0 ∨ den = 0 then zero negative
  else
    let guess : Int := (num.log2 : Int) - (den.log2 : Int) - 52
    let (a, b) := scale num den guess
    let q := max leastExponent (if a / b < Nat.pow 2 52 then guess - 1 else guess)
    let (a, b) := scale num den q
    let m := divideToEven a b
    let (m, q) := if m = Nat.pow 2 53 then (Nat.pow 2 52, q + 1) else (m, q)
    if greatestExponent < q then .infinite negative else .finite negative m q

def ofNat (negative : Bool) (n : Nat) : Double := ofRatio negative n 1

def ofInt (n : Int) : Double := ofRatio (n < 0) n.natAbs 1

/-- The exact value of a finite number without its sign, as a ratio. -/
def ratio (mantissa : Nat) (exponent : Int) : Nat × Nat :=
  if exponent < 0 then (mantissa, Nat.pow 2 exponent.natAbs)
  else (mantissa * Nat.pow 2 exponent.natAbs, 1)

/-- The product of two finite numbers, without regard to the other kinds. -/
def times : Double → Double → Double
  | .finite s m e, .finite t n f =>
    let (a, b) := ratio m e
    let (c, d) := ratio n f
    ofRatio (s != t) (a * c) (b * d)
  | x, _ => x

/-- The quotient of two finite numbers, without regard to the other kinds. -/
def divide : Double → Double → Double
  | .finite s m e, .finite t n f =>
    let (a, b) := ratio m e
    let (c, d) := ratio n f
    ofRatio (s != t) (a * d) (b * c)
  | x, _ => x

/-- Whether the number is zero, of either sign. -/
def isZero : Double → Bool
  | .finite _ m _ => m == 0
  | _ => false

/-- Whether the number is one. -/
def isOne (x : Double) : Bool := x == ofNat false 1

def isFinite : Double → Bool
  | .finite .. => true
  | _ => false

/-- The number with the other sign. -/
def negate : Double → Double
  | .nan => .nan
  | .infinite s => .infinite !s
  | .finite s m e => .finite (!s) m e

/-- The number nearest to `digits * 10 ^ exponent`. -/
def ofScientific (negative : Bool) (digits : Nat) (exponent : Int) : Double :=
  if digits = 0 then zero negative
  else
    let magnitude := ((Nat.toDigits 10 digits).length : Int) + exponent
    if 310 < magnitude then .infinite negative
    else if magnitude < -330 then zero negative
    else if exponent < 0 then ofRatio negative digits (Nat.pow 10 exponent.natAbs)
    else ofRatio negative (digits * Nat.pow 10 exponent.natAbs) 1

end Double

end Registrar.Number
