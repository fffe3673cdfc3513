import Registrar.Number.Whole
/-!
# Dates

A date is a number of days from 1970-01-01, so dates compare as numbers. Year, month and day are
read off it in the proleptic Gregorian calendar, whose years repeat every 400 years or 146097
days.
-/
namespace Registrar.Time

/-- A day of the calendar, counted from 1970-01-01. -/
structure Date where
  day : Int
  deriving DecidableEq, Repr, Inhabited

/-- A date as year, month and day of the month. -/
structure Civil where
  year : Int
  month : Nat
  day : Nat
  deriving DecidableEq, Repr

/-- Days from 0000-03-01, the start of a cycle of 400 years, to 1970-01-01. -/
def epochShift : Int := 719468

def isLeapYear (year : Int) : Bool := year % 4 == 0 && (year % 100 != 0 || year % 400 == 0)

/-- The number of days of a month. -/
def daysInMonth (year : Int) (month : Nat) : Nat :=
  if month = 2 then (if isLeapYear year then 29 else 28)
  else if month = 4 ∨ month = 6 ∨ month = 9 ∨ month = 11 then 30 else 31

/-- The first and last year of a date. -/
def firstYear : Int := -262143
def lastYear : Int := 262142

namespace Date

/-- The year, month and day. Years are counted from March, so that a leap day ends its year. -/
def civil (date : Date) : Civil :=
  let shifted := date.day + epochShift
  let cycle := shifted / 146097
  let ofCycle := shifted % 146097
  let ofYear := (ofCycle - ofCycle / 1460 + ofCycle / 36524 - ofCycle / 146096) / 365
  let dayOfYear := ofCycle - (365 * ofYear + ofYear / 4 - ofYear / 100)
  let fromMarch := (5 * dayOfYear + 2) / 153
  let day := dayOfYear - (153 * fromMarch + 2) / 5 + 1
  let month := if fromMarch < 10 then fromMarch + 3 else fromMarch - 9
  let year := ofYear + cycle * 400 + (if month ≤ 2 then 1 else 0)
  ⟨year, month.toNat, day.toNat⟩

/-- The date of a year, month and day, without regard to whether the day exists. -/
def ofCivil (c : Civil) : Date :=
  let year := if c.month ≤ 2 then c.year - 1 else c.year
  let cycle := year / 400
  let ofYear := year % 400
  let fromMarch : Int := if c.month > 2 then c.month - 3 else c.month + 9
  let dayOfYear := (153 * fromMarch + 2) / 5 + c.day - 1
  let ofCycle := ofYear * 365 + ofYear / 4 - ofYear / 100 + dayOfYear
  ⟨cycle * 146097 + ofCycle - epochShift⟩

/-- The date of a year, month and day of the calendar. -/
def ofCivil? (c : Civil) : Option Date :=
  if firstYear ≤ c.year ∧ c.year ≤ lastYear ∧ 1 ≤ c.month ∧ c.month ≤ 12
      ∧ 1 ≤ c.day ∧ c.day ≤ daysInMonth c.year c.month then
    some (ofCivil c)
  else none

/-- The first and last day that has a date. -/
def first : Date := ofCivil ⟨firstYear, 1, 1⟩
def last : Date := ofCivil ⟨lastYear, 12, 31⟩

def inRange (date : Date) : Bool := first.day ≤ date.day && date.day ≤ last.day

end Date

/-- Four digits, or a sign and at least four digits for a year that four digits cannot show. -/
def yearText (year : Int) : List Char :=
  if 0 ≤ year ∧ year ≤ 9999 then Number.padded 4 year.natAbs
  else (if year < 0 then '-' else '+') :: Number.padded 4 year.natAbs

/-- Year, month and day with hyphens between them. -/
def Date.text (date : Date) : List Char :=
  let c := date.civil
  yearText c.year ++ '-' :: Number.padded 2 c.month ++ '-' :: Number.padded 2 c.day

end Registrar.Time
