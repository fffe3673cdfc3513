import Registrar.Text.Blank
import Registrar.Time.Instant
/-!
# Reading instants and dates

An instant is read from a date, a separator, a time and an offset from universal time. Blanks may
stand before every number and before every mark, a year may have a sign and then any number of
digits, and a fraction keeps nine digits. Faults are found from left to right; whether the day
exists is asked last.
-/
namespace Registrar.Time

/-- Why a text is not an instant. -/
inductive Fault
  | invalid
  | tooShort
  | outOfRange
  | trailing
  | impossible
  deriving DecidableEq, Repr

def Fault.message : Fault → String
  | .invalid => "input contains invalid characters"
  | .tooShort => "premature end of input"
  | .outOfRange => "input is out of range"
  | .trailing => "trailing input"
  | .impossible => "no possible date and time matching input"

namespace Reading

open Text (trimStart isBlank)
open Number (digit? isDigit)

/-- The value of some digits, or a fault where it passes what 64 bits hold. -/
def value64 (s : List Char) : Except Fault Int :=
  match Number.readDigits 9223372036854775807 .tooLarge 0 s with
  | .ok n => .ok n
  | .error _ => .error .outOfRange

/-- One to `most` digits, and what follows them. -/
def number (most : Option Nat) (s : List Char) : Except Fault (Int × List Char) := do
  let run := s.takeWhile isDigit
  let run := match most with
    | some n => run.take n
    | none => run
  match run, s with
  | [], [] => .error .tooShort
  | [], _ :: _ => .error .invalid
  | _, _ => return (← value64 run, s.drop run.length)

/-- A number of at most two digits within bounds, after blanks. -/
def twoDigits (low high : Int) (s : List Char) : Except Fault (Nat × List Char) := do
  let (n, rest) ← number (some 2) (trimStart s)
  if low ≤ n ∧ n ≤ high then return (n.toNat, rest) else .error .outOfRange

/-- The year: four digits at most, or a sign and any number of digits. -/
def year (s : List Char) : Except Fault (Int × List Char) := do
  let (n, rest) ← match trimStart s with
    | '-' :: digits => do
      let (n, rest) ← number none digits
      pure (-n, rest)
    | '+' :: digits => number none digits
    | digits => number (some 4) digits
  if -2147483648 ≤ n ∧ n ≤ 2147483647 then return (n, rest) else .error .outOfRange

/-- A mark, after blanks. -/
def mark (c : Char) (s : List Char) : Except Fault (List Char) :=
  match trimStart s with
  | [] => .error .tooShort
  | d :: rest => if d = c then .ok rest else .error .invalid

/-- The fraction of a second in nanoseconds: a point and digits, of which nine count. -/
def fraction : List Char → Except Fault (Nat × List Char)
  | '.' :: digits => do
    let (n, rest) ← number (some 9) digits
    let used := digits.length - rest.length
    return (n.toNat * Nat.pow 10 (9 - used), rest.dropWhile isDigit)
  | s => .ok (0, s)

/-- Two digits without blanks before them. -/
def pair (s : List Char) : Except Fault (Nat × Nat × List Char) :=
  match s with
  | [] => .error .tooShort
  | [c] => if c.utf8Size < 2 then .error .tooShort else .error .invalid
  | c :: d :: rest =>
    match digit? c, digit? d with
    | some x, some y => .ok (x, y, rest)
    | _, _ => .error .invalid

/-- The offset from universal time in seconds. -/
def offset (s : List Char) : Except Fault (Int × List Char) := do
  let signedOffset (negative : Bool) (s : List Char) : Except Fault (Int × List Char) := do
    let (h, k, s) ← pair s
    let (m, n, rest) ← pair (s.dropWhile fun c => c == ':' || isBlank c)
    if 5 < m then .error .outOfRange
    let seconds : Int := (h * 10 + k) * 3600 + (m * 10 + n) * 60
    return (if negative then -seconds else seconds, rest)
  match s with
  | [] => .error .tooShort
  | 'Z' :: rest => return (0, rest)
  | 'z' :: rest => return (0, rest)
  | '+' :: rest => signedOffset false rest
  | '-' :: rest => signedOffset true rest
  | '−' :: rest => signedOffset true rest
  | _ => .error .invalid

/-- The zone: the name of universal time in any letter case, or an offset. -/
def zone (s : List Char) : Except Fault (Int × List Char) :=
  if (s.take 3).map Char.toLower = "utc".toList then .ok (0, s.drop 3) else offset s

end Reading

open Reading in
/-- The instant a text stands for. -/
def Instant.read (s : List Char) : Except Fault Instant := do
  let (y, s) ← year s
  let s ← mark '-' s
  let (month, s) ← twoDigits 1 12 s
  let s ← mark '-' s
  let (day, s) ← twoDigits 1 31 s
  let s ← match s with
    | [] => .error .tooShort
    | c :: rest => if c = 't' ∨ c = 'T' ∨ c = ' ' then .ok rest else .error .invalid
  let (hour, s) ← twoDigits 0 23 s
  let s ← mark ':' s
  let (minute, s) ← twoDigits 0 59 s
  let s ← mark ':' s
  let (second, s) ← twoDigits 0 60 s
  let (nanos, s) ← fraction s
  let (shift, s) ← zone (Text.trimStart s)
  if Text.trimStart s ≠ [] then .error .trailing
  let some date := Date.ofCivil? ⟨y, month, day⟩ | .error .outOfRange
  if shift ≤ -86400 ∨ 86400 ≤ shift then .error .outOfRange
  let leap := second = 60
  let local_ := date.day * 86400 + hour * 3600 + minute * 60 + (if leap then 59 else second)
  let t : Instant := ⟨local_ - shift, nanos + if leap then nanosPerSecond else 0⟩
  if t.date.inRange then return t else .error .impossible

open Reading in
/-- The date written as year, month and day with hyphens between them. -/
def Date.read? (s : List Char) : Option Date :=
  let result : Except Fault (Civil × List Char) := do
    let (y, s) ← year s
    let s ← mark '-' s
    let (month, s) ← twoDigits 1 12 s
    let s ← mark '-' s
    let (day, s) ← twoDigits 1 31 s
    return (⟨y, month, day⟩, s)
  match result with
  | .ok (c, []) => Date.ofCivil? c
  | _ => none

end Registrar.Time
