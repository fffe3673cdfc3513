import Registrar.Number.Whole
import Registrar.Text.Blank
import Registrar.Text.Cut
/-!
# Templates

A template is a text with tags between doubled braces: the name of a field inserts a text, a name
with an index inserts one element of a list, and a pair of tags repeats what stands between them
for every element, which a point inserts. The text is cut into pieces (`Piece.scan`), and the
pieces are put together to a tree (`Node.build`), both from left to right; the first piece that
does not fit is the one reported. Whatever is inserted is escaped, so that only the text of the
template itself can hold markup.
-/
namespace Registrar.Mail

/-- A piece of a template. -/
inductive Piece
  /-- Text up to the next tag or the end. -/
  | literal (text : List Char)
  /-- What stands between the braces of a tag, without the blanks at its ends. -/
  | tag (text : List Char)
  /-- A tag that never ends. -/
  | unterminated
  deriving DecidableEq, Repr

namespace Piece

/-- The literal read so far, if it has a character. -/
def flush (before : List Char) : List Piece :=
  if before = [] then [] else [.literal before.reverse]

mutual

/-- The pieces of a text; `before` is the literal at hand, in reverse. -/
def scanText (before : List Char) : List Char → List Piece
  | [] => flush before
  | '\x7b' :: '\x7b' :: rest => flush before ++ scanTag [] rest
  | c :: rest => scanText (c :: before) rest

/-- The pieces of a text that starts inside a tag; `before` is the tag at hand, in reverse. -/
def scanTag (before : List Char) : List Char → List Piece
  | [] => [.unterminated]
  | '\x7d' :: '\x7d' :: rest => .tag (Text.trim before.reverse) :: scanText [] rest
  | c :: rest => scanTag (c :: before) rest

end

/-- The pieces of a template. -/
def scan (source : List Char) : List Piece := scanText [] source

end Piece

/-- Why a template cannot be read, or cannot be filled in. -/
inductive TemplateFault
  | unterminated
  | unclosed (field : String)
  | strayEnd
  | elementOutside
  | badIndex (tag : String)
  | badField (name : String)
  | unknownField (name : String)
  | listAsText (name : String)
  | notAList (name : String)
  | outOfRange (index : Nat) (name : String) (length : Nat)
  deriving DecidableEq, Repr

def TemplateFault.message : TemplateFault → String
  | .unterminated => "unterminated \x7b\x7b"
  | .unclosed field => "unclosed \x7b\x7b#each " ++ field ++ "\x7d\x7d"
  | .strayEnd => "\x7b\x7b/each\x7d\x7d without matching #each"
  | .elementOutside => "\x7b\x7b.\x7d\x7d outside #each"
  | .badIndex tag => "bad index in \x7b\x7b" ++ tag ++ "\x7d\x7d"
  | .badField name => "bad field name '" ++ name ++ "'"
  | .unknownField name => "unknown field " ++ name
  | .listAsText name => "field " ++ name ++ " is a list; use an index or #each"
  | .notAList name => "field " ++ name ++ " is not a list"
  | .outOfRange index name length =>
    s!"index {index} out of range for {name} (length {length})"

/-- A part of a template (`template::Node`). -/
inductive Node
  | literal (text : List Char)
  | field (name : String)
  | index (name : String) (index : Nat)
  | each (name : String) (body : List Node)
  | element
  deriving Repr

namespace Node

/-- The characters of the names of fields. -/
def isNameChar (c : Char) : Bool := c.isAlphanum || c == '_'

/-- A name of one or more letters, digits and underscores (`Parser::field_name`). -/
def fieldName (name : List Char) : Except TemplateFault String :=
  if name ≠ [] ∧ name.all isNameChar then .ok (String.ofList name)
  else .error (.badField (String.ofList name))

/-- The number between brackets, of which `rest` is what follows the opening one. -/
def readIndex (tag rest : List Char) : Except TemplateFault Nat :=
  let bad := Except.error (TemplateFault.badIndex (String.ofList tag))
  if rest.getLast? = some ']' then
    match Number.readNat64 (Text.trim rest.dropLast) with
    | .ok n => .ok n.toNat
    | .error _ => bad
  else bad

/-- The field, or element of a field, that a tag names (`Parser::reference`). -/
def reference (tag : List Char) : Except TemplateFault Node :=
  match Text.cutAt? '[' tag with
  | some (name, rest) => do
    let n ← readIndex tag rest
    return .index (← fieldName (Text.trim name)) n
  | none => do return .field (← fieldName tag)

/-- What a tag that opens a block says before the name of its field. -/
def blockMark : List Char := "#each ".toList

/-- The tag that closes a block. -/
def blockEnd : List Char := "/each".toList

/-- The nodes of some pieces (`Parser::nodes`). `blocks` are the open blocks, innermost first, each
with its field and the nodes before it; `done` are the nodes of the innermost block so far. Both are
kept in reverse. -/
def build (blocks : List (String × List Node)) (done : List Node) :
    List Piece → Except TemplateFault (List Node)
  | [] =>
    match blocks with
    | [] => .ok done.reverse
    | (name, _) :: _ => .error (.unclosed name)
  | .literal text :: rest => build blocks (.literal text :: done) rest
  | .unterminated :: _ => .error .unterminated
  | .tag tag :: rest =>
    if tag = blockEnd then
      match blocks with
      | [] => .error .strayEnd
      | (name, before) :: outer => build outer (.each name done.reverse :: before) rest
    else if blockMark.isPrefixOf tag then
      match fieldName (Text.trim (tag.drop blockMark.length)) with
      | .ok name => build ((name, done) :: blocks) [] rest
      | .error fault => .error fault
    else if tag = ['.'] then
      if blocks = [] then .error .elementOutside else build blocks (.element :: done) rest
    else
      match reference tag with
      | .ok node => build blocks (node :: done) rest
      | .error fault => .error fault

end Node

/-- What a field stands for (`template::TemplateValue`). -/
inductive Binding
  | text (s : String)
  | list (items : List String)
  deriving DecidableEq, Repr

/-- The fields that a template is filled in with (`template::TemplateContext`); of two with one name
the first counts. -/
abbrev Context := List (String × Binding)

/-- One character of an inserted text. -/
def escapeChar : Char → List Char
  | '&' => "&amp;".toList
  | '<' => "&lt;".toList
  | '>' => "&gt;".toList
  | '"' => "&#34;".toList
  | '\'' => "&#39;".toList
  | c => [c]

/-- An inserted text (`template::escape_html_into`). -/
def escape (s : String) : List Char := s.toList.flatMap escapeChar

namespace Context

def binding (context : Context) (name : String) : Except TemplateFault Binding :=
  match context.lookup name with
  | some binding => .ok binding
  | none => .error (.unknownField name)

def list (context : Context) (name : String) : Except TemplateFault (List String) := do
  match ← context.binding name with
  | .list items => return items
  | .text _ => .error (.notAList name)

end Context

namespace Node

/-- The concatenation of what `f` gives for each item, or the first fault. -/
def concat {α : Type} (f : α → Except TemplateFault (List Char)) :
    List α → Except TemplateFault (List Char)
  | [] => .ok []
  | item :: rest => do
    let first ← f item
    return first ++ (← concat f rest)

mutual

/-- The text of a node; `element` is what the point stands for. -/
def render (context : Context) (element : String) : Node → Except TemplateFault (List Char)
  | .literal text => .ok text
  | .field name => do
    match ← context.binding name with
    | .text s => return escape s
    | .list _ => .error (.listAsText name)
  | .index name n => do
    let items ← context.list name
    match items[n]? with
    | some s => return escape s
    | none => .error (.outOfRange n name items.length)
  | .each name body => do
    concat (fun item => renderAll context item body) (← context.list name)
  | .element => .ok (escape element)

/-- The text of some nodes, one after the other (`Template::render_nodes`). -/
def renderAll (context : Context) (element : String) :
    List Node → Except TemplateFault (List Char)
  | [] => .ok []
  | node :: rest => do
    let first ← render context element node
    return first ++ (← renderAll context element rest)

end

end Node

/-- A template that has been read (`template::Template`). -/
structure Template where
  name : String
  nodes : List Node
  deriving Repr

namespace Template

/-- Reads a template (`Template::parse`). -/
def read (name : String) (source : List Char) : Except TemplateFault Template := do
  return ⟨name, ← Node.build [] [] (Piece.scan source)⟩

/-- The text of a template filled in with a context (`Template::render`). -/
def render (template : Template) (context : Context) : Except TemplateFault (List Char) :=
  Node.renderAll context "" template.nodes

end Template

end Registrar.Mail
