import Registrar.Yaml.Node
import Registrar.Yaml.Plain
/-!
# Decoding YAML documents

A decoder takes a node to a value, or refuses it. Aliases are followed wherever a value is
expected. A scalar is a text whatever it looks like; it is a number only if it is plain, and it
names one of some values by its text or by a tag. A plain scalar without text stands for a record
without fields, for a list without items and for nothing.
-/
namespace Registrar.Yaml

/-- A reading of the nodes of a document as values of one type. -/
abbrev Decoder (α : Type) := Document → Node → Option α

namespace Decoder

/-- A decoder that need not know of aliases. -/
def resolved {α : Type} (decode : Decoder α) : Decoder α := fun document node =>
  match node with
  | .aliased anchor => do decode document (← document.anchored? anchor)
  | node => decode document node

/-- Whether a scalar is plain and has no text. -/
def isEmpty (style : Style) (text : List Char) : Bool := style = .plain && text.isEmpty

def text : Decoder String := resolved fun _ node =>
  match node with
  | .scalar _ _ text => some (String.ofList text)
  | _ => none

/-- The tag of whole numbers, and that of null. -/
def wholeTag : Tag := Text.encodeUtf8 "tag:yaml.org,2002:int".toList
def nullTag : Tag := Text.encodeUtf8 "tag:yaml.org,2002:null".toList

/-- A whole number from zero to `limit`. A literal block may hold one if its tag says so. -/
def natural (limit : Nat) : Decoder Nat := resolved fun _ node =>
  match node with
  | .scalar mark style text =>
    if style = .plain ∨ (style = .literal ∧ mark.tag = some wholeTag) then
      Plain.readNat? limit text
    else none
  | _ => none

/-- Every item of a sequence. -/
def list {α : Type} (item : Decoder α) : Decoder (List α) := resolved fun document node =>
  match node with
  | .sequence _ items => items.mapM (item document)
  | .scalar _ style text => if isEmpty style text then some [] else none
  | _ => none

/-- Nothing where the node is null. -/
def option {α : Type} (some : Decoder α) : Decoder (Option α) := resolved fun document node =>
  let present := (some document node).map Option.some
  match node with
  | .scalar mark .plain text =>
    match mark.tag with
    | .some tag =>
      if tag = nullTag then if Plain.isNull text then Option.some none else none else present
    | none => if text.isEmpty || Plain.isNull text then Option.some none else present
  | _ => present

/-- The name in a tag that is not a global one. -/
def localName? (tag : Tag) : Option String :=
  match Text.decodeUtf8? tag with
  | some ['!'] => some "!"
  | some ('!' :: name) => some (String.ofList name)
  | _ => none

/-- One of some named values. -/
def named {α : Type} (values : List (String × α)) : Decoder α := resolved fun _ node =>
  match node.tag?.bind localName? with
  | some name =>
    match node with
    | .scalar _ .plain text =>
      if text.isEmpty || Plain.isNull text then values.lookup name else none
    | _ => none
  | none =>
    match node with
    | .scalar _ _ text => values.lookup (String.ofList text)
    | _ => none

/-! ## Records -/

/-- The values of the fields of a record, by name. -/
abbrev Fields := List (String × Node)

/-- The fields with some names, each of which stands at most once. Fields of other names are left
alone, but every name must be a text. -/
def fieldsOf (names : List String) (document : Document) : List (Node × Node) → Option Fields
  | [] => some []
  | (key, value) :: rest => do
    let name ← text document key
    let fields ← fieldsOf names document rest
    if name ∉ names then some fields
    else if (fields.lookup name).isSome then none
    else some ((name, value) :: fields)

/-- The value of a field; `absent` is its value where it is missing. -/
def field {α : Type} (name : String) (decode : Decoder α) (absent : Option α)
    (document : Document) (fields : Fields) : Option α :=
  match fields.lookup name with
  | some node => decode document node
  | none => absent

/-- A record whose fields have some names. -/
def record {α : Type} (names : List String) (build : Document → Fields → Option α) : Decoder α :=
  resolved fun document node =>
    match node with
    | .mapping _ entries => do build document (← fieldsOf names document entries)
    | .scalar _ style text => if isEmpty style text then build document [] else none
    | _ => none

end Decoder

/-- The value that the only document of a text stands for. -/
def decode? {α : Type} (decode : Decoder α) (text : List Char) : Option α := do
  let document ← Document.read? text
  decode document document.root

end Registrar.Yaml
