import Registrar.Number.Scientific
/-!
# What plain scalars stand for

A plain scalar may stand for null, a truth value or a number instead of its text. Numbers are
decimal, or whole numbers of base 16, 8 or 2 behind `0x`, `0o` or `0b`. A decimal whole number has
no zeros in front (`hasExtraZeros`): digits behind a zero are a text.
-/
namespace Registrar.Yaml.Plain

def isNull (s : List Char) : Bool :=
  String.ofList s ∈ ["null", "Null", "NULL", "~"]

def isBool (s : List Char) : Bool :=
  String.ofList s ∈ ["true", "True", "TRUE", "false", "False", "FALSE"]

/-- The text without a plus sign in front. -/
def unsigned : List Char → List Char
  | '+' :: rest => rest
  | s => s

/-- Whether the text, a sign aside, is a zero with more digits behind it. -/
def hasExtraZeros (s : List Char) : Bool :=
  let digits := match s with
    | '+' :: rest | '-' :: rest => rest
    | _ => s
  match digits with
  | '0' :: rest => !rest.isEmpty && rest.all Number.isDigit
  | _ => false

/-- The value of a number behind the name of its base. -/
def readCoded? : List Char → Option Nat
  | '0' :: 'x' :: digits => Number.readBase? 16 digits
  | '0' :: 'o' :: digits => Number.readBase? 8 digits
  | '0' :: 'b' :: digits => Number.readBase? 2 digits
  | _ => none

/-- A number, as far as it is not above `limit`. -/
def within? (limit : Nat) (n : Option Nat) : Option Nat := n.filter (· ≤ limit)

/-- A whole number from zero to `limit`. -/
def readNat? (limit : Nat) (s : List Char) : Option Nat :=
  within? limit (readCoded? (unsigned s)) <|>
    if hasExtraZeros s then none else within? limit (Number.readBase? 10 (unsigned s))

/-- The number without its sign, if the text is a negative number down to `-limit`. -/
def readNegative? (limit : Nat) : List Char → Option Nat
  | '-' :: s =>
    within? limit (readCoded? s) <|>
      if hasExtraZeros s then none else within? limit (Number.readBase? 10 s)
  | _ => none

/-- Whether the text is a whole number of 128 bits. -/
def isWhole (s : List Char) : Bool :=
  (readNat? (Nat.pow 2 128 - 1) s).isSome || (readNegative? (Nat.pow 2 127) s).isSome

/-- Whether the text is a floating point number. Those that are not finite have names of their
own. -/
def isDouble (s : List Char) : Bool :=
  let body := unsigned s
  String.ofList body ∈ [".inf", ".Inf", ".INF"]
    || String.ofList s ∈ ["-.inf", "-.Inf", "-.INF", ".nan", ".NaN", ".NAN"]
    || match Number.Double.read? body with
      | some x => x.isFinite && (body = s || !(body.head? = some '+' || body.head? = some '-'))
      | none => false

/-- Whether a plain scalar of this text would stand for something else, or might do so for some
reader. -/
def isAmbiguous (s : List Char) : Bool :=
  s.isEmpty || isNull s || isBool s || isWhole s || isDouble s || hasExtraZeros s

end Registrar.Yaml.Plain
