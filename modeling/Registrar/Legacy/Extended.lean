import Registrar.Json.Basic
import Registrar.Number.Scientific
import Registrar.Number.Whole
import Registrar.Time.Instant
/-!
# Extended documents

An export wraps values that plain JSON has no type for in objects of one field whose name starts
with a dollar sign. Normalizing puts the value in place of its wrapper at every depth; an object
that only looks like a wrapper is kept, and its fields are normalized.
-/
namespace Registrar.Legacy

open Registrar (Json)

/-- A whole number of 64 bits written as a text. -/
def wholeText? (s : String) : Option Int := (Number.readInt64 s.toList).toOption

/-- The instant so many milliseconds from 1970, as a text. -/
def millisText? (millis : Int) : Option Json :=
  (Time.Instant.ofMillis? millis).map fun t => .text (String.ofList t.text)

/-- The text of a wrapped date: a text as it is, or a number of milliseconds, which may be wrapped
itself (`legacy::extended_date`). -/
def date? : Json → Option Json
  | .text s => some (.text s)
  | .int millis => if millis ≤ Json.greatestSigned then millisText? millis else none
  | .object fields =>
    match fields.lookup "$numberLong" with
    | some (.text s) => (wholeText? s).bind millisText?
    | _ => none
  | _ => none

/-- The value that an object of one field wraps (`legacy::normalize_object`). -/
def wrapped? : String → Json → Option Json
  | "$oid", .text s => some (.text s)
  | "$date", date => date? date
  | "$numberInt", .text s => (wholeText? s).map .int
  | "$numberLong", .text s => (wholeText? s).map .int
  | "$numberDouble", .text s =>
    some <| match Number.Double.read? s.toList with
      | some x => if x.isFinite then .float x else .null
      | none => .null
  | _, _ => none

/-- The value that an object wraps, if it is a wrapper. -/
def unwrap? : List (String × Json) → Option Json
  | [(name, value)] => wrapped? name value
  | _ => none

mutual

/-- The document with every wrapper replaced by its value (`legacy::normalize`). -/
def normalize : Json → Json
  | .array items => .array (normalizeItems items)
  | .object fields =>
    match unwrap? fields with
    | some value => value
    | none => .object (normalizeFields fields)
  | other => other

def normalizeItems : List Json → List Json
  | [] => []
  | item :: rest => normalize item :: normalizeItems rest

def normalizeFields : List (String × Json) → List (String × Json)
  | [] => []
  | (name, value) :: rest => (name, normalize value) :: normalizeFields rest

end

theorem normalizeItems_eq (items : List Json) : normalizeItems items = items.map normalize := by
  induction items with
  | nil => rfl
  | cons item rest ih => simp [normalizeItems, ih]

theorem normalizeFields_eq (fields : List (String × Json)) :
    normalizeFields fields = fields.map fun (name, value) => (name, normalize value) := by
  induction fields with
  | nil => rfl
  | cons field rest ih =>
    obtain ⟨name, value⟩ := field
    simp [normalizeFields, ih]

end Registrar.Legacy
