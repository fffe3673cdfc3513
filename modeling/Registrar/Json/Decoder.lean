import Registrar.Json.Basic
import Registrar.Number.Layout
import Registrar.Text.Quoted
import Registrar.Time.Reading
/-!
# Decoding documents

A decoder takes a document to a value or says what does not fit. Records are decoded from objects
or from arrays: an object's fields are looked at in the order of their names, so the first field
that does not fit in that order is the one reported, and only then are missing fields looked for,
in the order of declaration; an array holds the fields in the order of declaration.
-/
namespace Registrar.Json

/-- Why a document does not fit. -/
inductive Mismatch
  | wrongType (got : Json) (expected : String)
  | wrongValue (got expected : String)
  | wrongLength (length : Nat) (expected : String)
  | missingField (name : String)
  | noVariant (type : String)
  | unknownVariant (name : String) (known : List String)
  | badInstant (fault : Time.Fault)
  deriving Repr

/-- What a message calls a document that does not fit. -/
def describe : Json → String
  | .null => "null"
  | .bool b => s!"boolean `{b}`"
  | .int n => s!"integer `{Number.shown n}`"
  | .float x => s!"floating point `{String.ofList x.document}`"
  | .text s => s!"string {Text.quoted s}"
  | .array _ => "sequence"
  | .object _ => "map"

/-- The known names as a message lists them. -/
def listKnown (known : List String) : String :=
  match known with
  | [] => "there are no variants"
  | [a] => s!"expected `{a}`"
  | [a, b] => s!"expected `{a}` or `{b}`"
  | _ =>
    let names := ", ".intercalate (known.map fun name => s!"`{name}`")
    s!"expected one of {names}"

def Mismatch.message : Mismatch → String
  | .wrongType got expected => s!"invalid type: {describe got}, expected {expected}"
  | .wrongValue got expected => s!"invalid value: {got}, expected {expected}"
  | .wrongLength length expected => s!"invalid length {length}, expected {expected}"
  | .missingField name => s!"missing field `{name}`"
  | .noVariant type => s!"data did not match any variant of untagged enum {type}"
  | .unknownVariant name known => s!"unknown variant `{name}`, {listKnown known}"
  | .badInstant fault => fault.message

/-- A reading of documents as values of one type. -/
abbrev Decoder (α : Type) := Json → Except Mismatch α

namespace Decoder

def text : Decoder String
  | .text s => .ok s
  | other => .error (.wrongType other "a string")

def bool : Decoder Bool
  | .bool b => .ok b
  | other => .error (.wrongType other "a boolean")

/-- A whole number within bounds, whose type messages call `type`. -/
def whole (type : String) (low high : Int) : Decoder Int
  | .int n =>
    if low ≤ n ∧ n ≤ high then .ok n
    else .error (.wrongValue s!"integer `{Number.shown n}`" type)
  | other => .error (.wrongType other type)

def int32 : Decoder Int := whole "i32" (-2147483648) 2147483647

/-- A whole number that is not negative. -/
def natural (type : String) (high : Int) : Decoder Nat := fun document =>
  (whole type 0 high document).map Int.toNat

def nat32 : Decoder Nat := natural "u32" 4294967295
def nat64 : Decoder Nat := natural "u64" greatestUnsigned

/-- A number; a whole one is taken to the nearest floating point number. -/
def double : Decoder Number.Double
  | .int n => .ok (Number.Double.ofInt n)
  | .float x => .ok x
  | other => .error (.wrongType other "f64")

/-- An instant written as a text. -/
def instant : Decoder Time.Instant
  | .text s => (Time.Instant.read s.toList).mapError .badInstant
  | other => .error (.wrongType other "an RFC 3339 formatted date and time string")

/-- Every item of an array. -/
def list {α : Type} (item : Decoder α) : Decoder (List α)
  | .array items => items.mapM item
  | other => .error (.wrongType other "a sequence")

/-- Nothing where the document is null. -/
def option {α : Type} (some : Decoder α) : Decoder (Option α)
  | .null => .ok none
  | document => (some document).map Option.some

/-- One of some named values. An object with one field names it too, if the field is null. -/
def named {α : Type} (values : List (String × α)) : Decoder α :=
  let find (name : String) : Except Mismatch α :=
    match values.lookup name with
    | some value => .ok value
    | none => .error (.unknownVariant name (values.map Prod.fst))
  fun
  | .text name => find name
  | .object [(name, content)] => do
    let value ← find name
    match content with
    | .null => return value
    | other => .error (.wrongType other "unit")
  | .object _ => .error (.wrongValue "map" "map with a single key")
  | other => .error (.wrongType other "string or map")

end Decoder

/-- The fields of a record in the order of declaration, and how they make up a value. -/
structure Schema (α : Type) where
  /-- Each field's name and whether a document fits it. -/
  checks : List (String × (Json → Except Mismatch Unit))
  /-- The value of an object's fields. -/
  ofFields : List (String × Json) → Except Mismatch α
  /-- The value of the items of an array and the items left over. The fields before these are
  counted, and `tooFew` is what does not fit where the field at some count has no item. -/
  ofItems : (tooFew : Nat → Mismatch) → Nat → List Json → Except Mismatch (α × List Json)

namespace Schema

/-- A field; `absent` is its value where it is missing. In an array only `default` counts. -/
def field {α : Type} (name : String) (decode : Decoder α) (absent default : Option α) :
    Schema α where
  checks := [(name, fun document => (decode document).map fun _ => ())]
  ofFields fields :=
    match fields.lookup name, absent with
    | some document, _ => decode document
    | none, some value => .ok value
    | none, none => .error (.missingField name)
  ofItems tooFew count
    | item :: rest => do return (← decode item, rest)
    | [] =>
      match default with
      | some value => .ok (value, [])
      | none => .error (tooFew count)

/-- A field that must be there. -/
def required {α : Type} (name : String) (decode : Decoder α) : Schema α :=
  field name decode none none

/-- A field with a value where it is missing. -/
def withDefault {α : Type} (name : String) (decode : Decoder α) (value : α) : Schema α :=
  field name decode (some value) (some value)

/-- A field that is nothing where it is missing or null. -/
def optional {α : Type} (name : String) (decode : Decoder α) : Schema (Option α) :=
  field name (Decoder.option decode) (some none) none

/-- Two groups of fields, one after the other. -/
def and {α β γ : Type} (combine : α → β → γ) (a : Schema α) (b : Schema β) : Schema γ where
  checks := a.checks ++ b.checks
  ofFields fields := do return combine (← a.ofFields fields) (← b.ofFields fields)
  ofItems tooFew count items := do
    let (x, items) ← a.ofItems tooFew count items
    let (y, items) ← b.ofItems tooFew (count + a.checks.length) items
    return (combine x y, items)

instance : Functor Schema where
  map f a := { checks := a.checks
               ofFields := fun fields => (a.ofFields fields).map f
               ofItems := fun tooFew count items =>
                 (a.ofItems tooFew count items).map fun (x, rest) => (f x, rest) }

instance : Seq Schema where
  seq f a := and (fun g x => g x) f (a ())

/-- The first field, in the order of the object, that does not fit. -/
def check {α : Type} (schema : Schema α) (fields : List (String × Json)) : Except Mismatch Unit :=
  fields.forM fun (name, document) =>
    match schema.checks.lookup name with
    | some fits => fits document
    | none => .ok ()

/-- A record that messages call `name`. -/
def decoder {α : Type} (name : String) (schema : Schema α) : Decoder α
  | .object fields => do
    schema.check fields
    schema.ofFields fields
  | .array items => do
    let tooFew (count : Nat) : Mismatch :=
      .wrongLength count s!"struct {name} with {schema.checks.length} elements"
    match ← schema.ofItems tooFew 0 items with
    | (value, []) => return value
    | (_, _ :: _) => .error (.wrongLength items.length "fewer elements in array")
  | other => .error (.wrongType other s!"struct {name}")

end Schema

end Registrar.Json
