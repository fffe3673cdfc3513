import Registrar.Proofs.Number.Plain
import Registrar.Proofs.Sql.Array
import Registrar.Proofs.Time.Reading
import Registrar.Sql.Value
/-!
# What a text stands for in a column

Every value but a null has a text, and a column reads a text as a value of its kind. A column of
dates or instants is taken to read them in full, as the calendar does; how a server keeps fractions
of a microsecond is its own affair. A value that a column of its kind can hold is the one that the
column reads from the text of the value (`read?_shown`).
-/
namespace Registrar.Sql

/-- Words for truth values that a server reads, in any letter case. -/
def readBool? (s : List Char) : Option Bool :=
  let word := s.map Char.toLower
  if word = ['t'] ∨ word = "true".toList then some true
  else if word = ['f'] ∨ word = "false".toList then some false
  else none

/-- The value that a text stands for in a column. -/
def Kind.read? (kind : Kind) (s : List Char) : Option Value :=
  match kind with
  | .bool => (readBool? s).map .bool
  | .smallint => (Number.readWithin (-32768) 32767 s).toOption.map .smallint
  | .integer => (Number.readInt32 s).toOption.map .integer
  | .bigint => (Number.readInt64 s).toOption.map .bigint
  | .double => (Number.Double.read? s).map .double
  | .text => some (.text (String.ofList s))
  | .textArray => do
    let items ← readArray? s
    return .textArray (← items.mapM id)
  | .date => (Time.Date.read? s).map .date
  | .timestamp => (Time.Instant.read s).toOption.map .timestamp

namespace Value

/-- The text of a value; a null has none. -/
def shown? : Value → Option (List Char)
  | null _ => none
  | bool b => some (if b then ['t'] else ['f'])
  | smallint n | integer n | bigint n => some (Number.decimal n)
  | double x => some x.plain
  | text s => some s.toList
  | textArray items => some (arrayText items)
  | date d => some d.text
  | timestamp t => some t.text

/-- A column of its kind can hold the value. -/
def Valid : Value → Prop
  | smallint n => -32768 ≤ n ∧ n ≤ 32767
  | integer n => -2147483648 ≤ n ∧ n ≤ 2147483647
  | bigint n => -9223372036854775808 ≤ n ∧ n ≤ 9223372036854775807
  | double x => x.Valid
  | date d => d.inRange = true
  | timestamp t => t.Valid
  | null _ | bool _ | text _ | textArray _ => True

instance : (v : Value) → Decidable v.Valid
  | smallint _ | integer _ | bigint _ => inferInstanceAs (Decidable (_ ∧ _))
  | double x => inferInstanceAs (Decidable x.Valid)
  | date _ => inferInstanceAs (Decidable (_ = true))
  | timestamp t => inferInstanceAs (Decidable t.Valid)
  | null _ | bool _ | text _ | textArray _ => inferInstanceAs (Decidable True)

theorem shown?_eq_none_iff {v : Value} : v.shown? = none ↔ v.isNull = true := by
  cases v <;> simp [shown?, isNull]

/-- **Values are read back** from their texts by the columns that can hold them. -/
theorem read?_shown {v : Value} (h : v.Valid) {s : List Char} (hs : v.shown? = some s) :
    v.kind.read? s = some v := by
  cases v with
  | null kind => cases hs
  | bool b =>
    cases hs
    cases b <;> rfl
  | smallint n =>
    cases hs
    simp only [kind, Kind.read?, Number.readWithin_decimal h.1 h.2]
    rfl
  | integer n =>
    cases hs
    simp only [kind, Kind.read?, Number.readInt32, Number.readWithin_decimal h.1 h.2]
    rfl
  | bigint n =>
    cases hs
    simp only [kind, Kind.read?, Number.readInt64, Number.readWithin_decimal h.1 h.2]
    rfl
  | double x =>
    cases hs
    simp only [kind, Kind.read?, Number.Double.read?_plain h, Option.map_some]
  | text s =>
    cases hs
    simp only [kind, Kind.read?, String.ofList_toList]
  | textArray items =>
    cases hs
    have hitems : (items.map some).mapM id = some items := by
      induction items with
      | nil => rfl
      | cons item items ih => simp [ih trivial]
    simp only [kind, Kind.read?, readArray?_arrayText, hitems, Option.bind_eq_bind, Option.bind_some]
    rfl
  | date d =>
    cases hs
    simp only [kind, Kind.read?, Time.Date.read?_text h, Option.map_some]
  | timestamp t =>
    cases hs
    simp only [kind, Kind.read?, Time.Instant.read_text h]
    rfl

/-- What stands in a field is a null's mark where the value is a null, and otherwise a text that a
column of the value's kind reads as the value. -/
structure Denotes (field : Option (List Char)) (v : Value) : Prop where
  null_iff : field = none ↔ v.isNull = true
  read : ∀ s ∈ field, v.kind.read? s = some v

theorem denotes_shown {v : Value} (h : v.Valid) : Denotes v.shown? v where
  null_iff := shown?_eq_none_iff
  read _ hs := read?_shown h hs

end Value

end Registrar.Sql
