import Registrar.Time.Date
/-!
# Instants

An instant is a number of seconds from the start of 1970 in universal time and a fraction of
nanoseconds. A fraction of a whole second or more stands for a leap second, which is shown as the
sixtieth second of its minute. Instants compare by seconds, then by fraction.
-/
namespace Registrar.Time

/-- Seconds from 1970-01-01T00:00:00 and nanoseconds, which pass 10^9 in a leap second. -/
structure Instant where
  seconds : Int
  nanos : Nat
  deriving DecidableEq, Repr, Inhabited

def nanosPerSecond : Nat := 1000000000

namespace Instant

/-- Whether one instant is no later than another. -/
def le (a b : Instant) : Bool :=
  a.seconds < b.seconds || (a.seconds == b.seconds && a.nanos ≤ b.nanos)

/-- The earliest of some instants. -/
def earliest? : List Instant → Option Instant
  | [] => none
  | x :: rest => match earliest? rest with
    | none => some x
    | some y => some (if le x y then x else y)

/-- The latest of some instants. -/
def latest? : List Instant → Option Instant
  | [] => none
  | x :: rest => match latest? rest with
    | none => some x
    | some y => some (if le y x then x else y)

/-- The day of the instant. -/
def date (t : Instant) : Date := ⟨t.seconds / 86400⟩

/-- The instant so many milliseconds from the start of 1970, if its day has a date. -/
def ofMillis? (millis : Int) : Option Instant :=
  let t : Instant := ⟨millis / 1000, (millis % 1000).toNat * 1000000⟩
  if t.date.inRange then some t else none

/-- The fraction in the fewest groups of three digits that lose nothing. -/
def fractionText (nanos : Nat) : List Char :=
  if nanos = 0 then []
  else if nanos % 1000000 = 0 then '.' :: Number.padded 3 (nanos / 1000000)
  else if nanos % 1000 = 0 then '.' :: Number.padded 6 (nanos / 1000)
  else '.' :: Number.padded 9 nanos

/-- Date, time and fraction; `zone` is what stands for universal time. -/
def textWith (zone : List Char) (t : Instant) : List Char :=
  let ofDay := (t.seconds % 86400).toNat
  let leap := nanosPerSecond ≤ t.nanos
  let second := ofDay % 60 + if leap then 1 else 0
  let nanos := if leap then t.nanos - nanosPerSecond else t.nanos
  t.date.text ++ 'T' :: Number.padded 2 (ofDay / 3600)
    ++ ':' :: Number.padded 2 (ofDay / 60 % 60) ++ ':' :: Number.padded 2 second
    ++ fractionText nanos ++ zone

/-- The instant with its offset from universal time, which is none. -/
def text : Instant → List Char := textWith "+00:00".toList

/-- The instant with the letter of universal time. -/
def zuluText : Instant → List Char := textWith ['Z']

end Instant

end Registrar.Time
