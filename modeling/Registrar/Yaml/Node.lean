import Registrar.Keyed
import Registrar.Text.Utf8
import Registrar.Yaml.Token
/-!
# YAML documents

The tree of nodes that some tokens stand for. A node may carry an anchor, and an alias stands in
for the node with its anchor. Anchors are numbered by how many different names precede them, so
`Document.anchored?` finds the node for a number: the last one in the text that carries it.

Wherever a node is left out, a plain scalar without text takes its place.
-/
namespace Registrar.Yaml

/-- A tag in full, as bytes. -/
abbrev Tag := List Nat

/-- What a node carries besides its content. -/
structure Mark where
  anchor : Option Nat := none
  tag : Option Tag := none

inductive Node
  | scalar (mark : Mark) (style : Style) (text : List Char)
  | sequence (mark : Mark) (items : List Node)
  | mapping (mark : Mark) (entries : List (Node × Node))
  | aliased (anchor : Nat)

namespace Node

/-- The node in place of one that is left out. -/
def empty : Node := .scalar {} .plain []

def tag? : Node → Option Tag
  | scalar mark .. | sequence mark _ | mapping mark _ => mark.tag
  | aliased _ => none

/-- A node with its anchor, if it has one. -/
def own (mark : Mark) (node : Node) : List (Nat × Node) :=
  match mark.anchor with
  | some n => [(n, node)]
  | none => []

mutual

/-- The nodes with anchors, in the order of the text. -/
def anchored : Node → List (Nat × Node)
  | .scalar mark style text => own mark (.scalar mark style text)
  | .sequence mark items => own mark (.sequence mark items) ++ anchoredItems items
  | .mapping mark entries => own mark (.mapping mark entries) ++ anchoredEntries entries
  | .aliased _ => []

/-- The nodes with anchors among some items. -/
def anchoredItems : List Node → List (Nat × Node)
  | [] => []
  | item :: rest => anchored item ++ anchoredItems rest

/-- The nodes with anchors among some keys and values. -/
def anchoredEntries : List (Node × Node) → List (Nat × Node)
  | [] => []
  | (key, value) :: rest => anchored key ++ anchored value ++ anchoredEntries rest

end

end Node

/-- A document. -/
structure Document where
  root : Node

/-- The node that the aliases of a number stand for. -/
def Document.anchored? (document : Document) (anchor : Nat) : Option Node :=
  document.root.anchored.reverse.lookup anchor

/-! ## Reading nodes -/

/-- What has not been read yet, and the numbers of the anchors met so far. -/
structure Feed where
  tokens : List Token
  anchors : List (List Char × Nat) := []

/-- Reads from tokens, or fails. -/
abbrev Reading (α : Type) := StateT Feed Option α

namespace Reading

/-- The next token, which stays. -/
def peek? : Reading (Option Token) := do return (← get).tokens.head?

/-- Goes past the next token. -/
def drop : Reading Unit := modify fun feed => { feed with tokens := feed.tokens.tail }

/-- Goes past the next token if it is this one. -/
def accept (token : Token) : Reading Bool := do
  if (← peek?) = some token then
    drop
    return true
  else return false

/-- The number of an anchor that is met here. -/
def register (name : List Char) : Reading Nat := do
  let feed ← get
  let number := feed.anchors.length
  set { feed with anchors := Keyed.put name number feed.anchors }
  return number

/-- The number of an anchor that an alias names. -/
def numberOf (name : List Char) : Reading Nat := do (← get).anchors.lookup name

/-- The name of an anchor, if one stands here. -/
def anchorName? : Reading (Option (List Char)) := do
  match ← peek? with
  | some (.anchor name) =>
    drop
    return some name
  | _ => return none

/-- A tag, if one stands here. -/
def tagText? : Reading (Option TagText) := do
  match ← peek? with
  | some (.tag text) =>
    drop
    return some text
  | _ => return none

end Reading

/-- What the handles of a document stand for. -/
abbrev Handles := List (List Char × List Nat)

/-- The two handles that every document has. -/
def Handles.standard : Handles :=
  [(['!'], Text.encodeUtf8 ['!']), (['!', '!'], Text.encodeUtf8 "tag:yaml.org,2002:".toList)]

/-- A tag in full. -/
def TagText.resolve? (handles : Handles) (text : TagText) : Option Tag :=
  if text.handle.isEmpty then some text.suffix
  else (handles.lookup text.handle).map (· ++ text.suffix)

namespace Node

open Reading

/-- The anchor and the tag before a node, in either order. -/
def readMark (handles : Handles) : Reading Mark := do
  let before ← anchorName?
  let text ← tagText?
  let name ← if before.isSome then pure before else anchorName?
  let tag ← match text with
    | none => pure none
    | some text => some <$> text.resolve? handles
  let anchor ← match name with
    | none => pure none
    | some name => some <$> register name
  return ⟨anchor, tag⟩

/-- Where a node may stand: between brackets, in a block, or in a block where a sequence need not
be indented. -/
inductive Position
  | flow
  | block
  | loose
  deriving DecidableEq, Repr

mutual

/-- A node; `fuel` bounds the work here and below. -/
def read (handles : Handles) : Nat → Position → Reading Node
  | 0, _ => failure
  | fuel + 1, position => do
    match ← peek? with
    | some (.aliased name) =>
      drop
      return .aliased (← numberOf name)
    | _ =>
      let mark ← readMark handles
      match ← peek? with
      | some (.scalar style text) =>
        drop
        return .scalar mark style text
      | some .flowSequence =>
        drop
        return .sequence mark (← readFlowItems handles fuel true)
      | some .flowMapping =>
        drop
        return .mapping mark (← readFlowEntries handles fuel true)
      | next =>
        if next = some .blockEntry ∧ position = .loose then
          return .sequence mark (← readLooseItems handles fuel)
        else if next = some .blockSequence ∧ position ≠ .flow then
          drop
          return .sequence mark (← readBlockItems handles fuel)
        else if next = some .blockMapping ∧ position ≠ .flow then
          drop
          return .mapping mark (← readBlockEntries handles fuel)
        else if mark.anchor.isSome ∨ mark.tag.isSome then return .scalar mark .plain []
        else failure

/-- A node that is left out where one of some tokens follows. -/
def readUnless (handles : Handles) :
    Nat → Position → List Token → Reading Node
  | 0, _, _ => failure
  | fuel + 1, position, stops => do
    match ← peek? with
    | some token => if token ∈ stops then return .empty else read handles fuel position
    | none => read handles fuel position

/-- The items of a block sequence, up to its end. -/
def readBlockItems (handles : Handles) : Nat → Reading (List Node)
  | 0 => failure
  | fuel + 1 => do
    if ← accept .blockEntry then
      let item ← readUnless handles fuel .block [.blockEntry, .blockEnd]
      return item :: (← readBlockItems handles fuel)
    else if ← accept .blockEnd then return []
    else failure

/-- The items of a sequence in a mapping that is no deeper than the mapping. -/
def readLooseItems (handles : Handles) : Nat → Reading (List Node)
  | 0 => failure
  | fuel + 1 => do
    if ← accept .blockEntry then
      let item ← readUnless handles fuel .block [.blockEntry, .key, .value, .blockEnd]
      return item :: (← readLooseItems handles fuel)
    else return []

/-- The keys and values of a block mapping, up to its end. -/
def readBlockEntries (handles : Handles) : Nat → Reading (List (Node × Node))
  | 0 => failure
  | fuel + 1 => do
    if ← accept .key then
      let key ← readUnless handles fuel .loose [.key, .value, .blockEnd]
      let value ←
        if ← accept .value then readUnless handles fuel .loose [.key, .value, .blockEnd]
        else pure .empty
      return (key, value) :: (← readBlockEntries handles fuel)
    else if ← accept .blockEnd then return []
    else failure

/-- The items between square brackets, up to the closing one. -/
def readFlowItems (handles : Handles) : Nat → (first : Bool) → Reading (List Node)
  | 0, _ => failure
  | fuel + 1, first => do
    if ← accept .flowSequenceEnd then return []
    if !first then
      if !(← accept .flowEntry) then failure
    if ← accept .flowSequenceEnd then return []
    let item ←
      if ← accept .key then do pure (Node.mapping {} [← readPair handles fuel])
      else read handles fuel .flow
    return item :: (← readFlowItems handles fuel false)

/-- A key and a value that are an item between square brackets. Where the key is left out, the
token in its place is left out too. -/
def readPair (handles : Handles) : Nat → Reading (Node × Node)
  | 0 => failure
  | fuel + 1 => do
    let next ← peek?
    let key ←
      if next = some .value ∨ next = some .flowEntry ∨ next = some .flowSequenceEnd then do
        drop
        pure .empty
      else read handles fuel .flow
    let value ←
      if ← accept .value then readUnless handles fuel .flow [.flowEntry, .flowSequenceEnd]
      else pure .empty
    return (key, value)

/-- The keys and values between braces, up to the closing one. -/
def readFlowEntries (handles : Handles) : Nat → (first : Bool) → Reading (List (Node × Node))
  | 0, _ => failure
  | fuel + 1, first => do
    if ← accept .flowMappingEnd then return []
    if !first then
      if !(← accept .flowEntry) then failure
    if ← accept .flowMappingEnd then return []
    let entry ←
      if ← accept .key then do
        let key ← readUnless handles fuel .flow [.value, .flowEntry, .flowMappingEnd]
        let value ←
          if ← accept .value then readUnless handles fuel .flow [.flowEntry, .flowMappingEnd]
          else pure .empty
        pure (key, value)
      else do pure (← read handles fuel .flow, .empty)
    return entry :: (← readFlowEntries handles fuel false)

end

end Node

/-! ## Reading documents -/

namespace Document

open Reading

/-- The directives before a document: at most one version, which must be known, and every handle
at most once. -/
def readDirectives : List Token → (versioned : Bool) → Handles → Option (Handles × List Token)
  | .version major minor :: rest, versioned, handles =>
    if versioned || major ≠ 1 || (minor ≠ 1 && minor ≠ 2) then none
    else readDirectives rest true handles
  | .tagHandle handle stands :: rest, versioned, handles =>
    if (handles.lookup handle).isSome then none
    else readDirectives rest versioned ((handle, stands) :: handles)
  | rest, _, handles => some (handles ++ Handles.standard, rest)

/-- The only document of some tokens. -/
def ofTokens? (tokens : List Token) : Option Document := do
  let (handles, rest) ← readDirectives tokens false []
  let begun := rest.head? = some .documentStart
  if rest.isEmpty || (rest.length ≠ tokens.length && !begun) then none
  let rest := if begun then rest.tail else rest
  let fuel := 4 * tokens.length + 8
  let (root, feed) ← match rest.head? with
    | none | some .documentStart | some .documentEnd | some (.version ..)
    | some (.tagHandle ..) =>
      if begun then some (Node.empty, { tokens := rest }) else none
    | some _ => (Node.read handles fuel .block).run { tokens := rest }
  if feed.tokens.all (· = .documentEnd) then some ⟨root⟩ else none

/-- The document of a text that holds just one. -/
def read? (text : List Char) : Option Document := do ofTokens? (← Token.scan? text)

end Document

end Registrar.Yaml
