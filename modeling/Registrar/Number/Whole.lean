/-!
# Whole numbers

Reading and writing decimal whole numbers. A text that is read may start with a sign, has at
least one digit and nothing but digits, and must lie between two bounds; where it does not, the
fault is that of the first character at which reading cannot go on.
-/
namespace Registrar.Number

/-- Why a text is not a whole number within bounds. -/
inductive WholeFault
  | empty
  | notADigit
  | tooLarge
  | tooSmall
  deriving DecidableEq, Repr

def WholeFault.message : WholeFault → String
  | .empty => "cannot parse integer from empty string"
  | .notADigit => "invalid digit found in string"
  | .tooLarge => "number too large to fit in target type"
  | .tooSmall => "number too small to fit in target type"

/-- The value of a digit of base ten. -/
def digit? (c : Char) : Option Nat :=
  if '0' ≤ c ∧ c ≤ '9' then some (c.toNat - '0'.toNat) else none

/-- The value of a digit of base sixteen, in either case. -/
def hexDigit? (c : Char) : Option Nat :=
  if '0' ≤ c ∧ c ≤ '9' then some (c.toNat - '0'.toNat)
  else if 'a' ≤ c ∧ c ≤ 'f' then some (c.toNat - 'a'.toNat + 10)
  else if 'A' ≤ c ∧ c ≤ 'F' then some (c.toNat - 'A'.toNat + 10)
  else none

/-- The value of one or more digits of a base up to sixteen. -/
def readBase? (base : Nat) (digits : List Char) : Option Nat :=
  if digits = [] then none
  else digits.foldlM (fun n c => do
    let d ← hexDigit? c
    if d < base then some (base * n + d) else none) 0

/-- Whether the character is a digit of base ten. -/
def isDigit (c : Char) : Bool := (digit? c).isSome

/-- The digits read onto `value`, which may not pass `limit`; `beyond` is the fault if it does. -/
def readDigits (limit : Nat) (beyond : WholeFault) (value : Nat) :
    List Char → Except WholeFault Nat
  | [] => .ok value
  | c :: rest =>
    match digit? c with
    | none => .error .notADigit
    | some d =>
      let next := value * 10 + d
      if limit < next then .error beyond else readDigits limit beyond next rest

/-- A whole number from `low` to `high`. A minus sign is read where negative numbers are allowed. -/
def readWithin (low high : Int) (s : List Char) : Except WholeFault Int :=
  let positive (digits : List Char) := do
    return Int.ofNat (← readDigits high.toNat .tooLarge 0 digits)
  match s with
  | [] => .error .empty
  | ['+'] => .error .notADigit
  | ['-'] => .error .notADigit
  | '+' :: digits => positive digits
  | '-' :: digits =>
    if low < 0 then do return -Int.ofNat (← readDigits low.natAbs .tooSmall 0 digits)
    else .error .notADigit
  | digits => positive digits

/-- Numbers of 32 bits with a sign. -/
def readInt32 : List Char → Except WholeFault Int := readWithin (-2147483648) 2147483647

/-- Numbers of 64 bits with a sign. -/
def readInt64 : List Char → Except WholeFault Int :=
  readWithin (-9223372036854775808) 9223372036854775807

/-- Numbers of 64 bits without a sign. -/
def readNat64 : List Char → Except WholeFault Int := readWithin 0 18446744073709551615

/-- The decimal digits of a number. -/
def digits (n : Nat) : List Char := Nat.toDigits 10 n

/-- A number in decimal, with a minus sign before it if it is negative. -/
def decimal (n : Int) : List Char :=
  if n < 0 then '-' :: digits n.natAbs else digits n.natAbs

/-- `decimal` as a string. -/
def shown (n : Int) : String := String.ofList (decimal n)

/-- At least `width` digits, with zeros in front. -/
def padded (width n : Nat) : List Char :=
  List.replicate (width - (digits n).length) '0' ++ digits n

end Registrar.Number
