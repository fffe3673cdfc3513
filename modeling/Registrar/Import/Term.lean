import Registrar.Failure
import Registrar.Number.Whole
import Registrar.Text.Cut
/-!
# Terms

A legacy term is a year and a month with an underscore between them. The warehouse numbers terms
by the years since 1900, times ten, plus the month.
-/
namespace Registrar.Import.Term

/-- The term of courses that a user has saved for later (`term::SHORTLIST_TERM`). -/
def shortlist : String := "9999_99"

/-- The year and the month of a term, from the year 1900 on. -/
def read? (raw : String) : Option (Int × Int) := do
  let (year, month) ← Text.cutAt? '_' raw.toList
  let year ← (Number.readInt32 year).toOption
  let month ← (Number.readInt32 month).toOption
  if 1 ≤ month ∧ month ≤ 12 ∧ 1900 ≤ year then some (year, month) else none

/-- The number that the warehouse gives a year and a month. -/
def number (year month : Int) : Int := (year - 1900) * 10 + month

/-- The largest number that a term can have. -/
def largest : Int := 2147483647

/-- The number of a term (`term::parse_term`). A term so late that its number is too large has
none. -/
def number? (raw : String) : Option Int := do
  let (year, month) ← read? raw
  if number year month ≤ largest then some (number year month) else none

/-- The number of a term that a document of a collection names (`term::term_id`). -/
def require (collection raw : String) : Except Failure Int :=
  match number? raw with
  | some n => .ok n
  | none => .error (.legacy collection s!"bad term id '{raw}'")

end Registrar.Import.Term
