import Registrar.Yaml.Lexeme
/-!
# Tokens of a YAML text

A text is cut into tokens from left to right. Two things make that more than cutting. Indentation
opens and closes collections without a character of its own: a column further right than the
innermost one opens a collection, a column further left closes those that are deeper. And a key is
only known to be one when the colon behind it comes, so the place of every node that may be a key
is kept as a `Candidate`, and the token that announces a key is put there later. A candidate must
stay on its line and within 1024 characters.
-/
namespace Registrar.Yaml

/-- How a scalar is written. -/
inductive Style
  | plain
  | singleQuoted
  | doubleQuoted
  | literal
  | folded
  deriving DecidableEq, Repr

/-- A tag as it is written: a handle, and what follows it as bytes. A tag between angle brackets
has no handle. -/
structure TagText where
  handle : List Char
  suffix : List Nat
  deriving DecidableEq, Repr

inductive Token
  | version (major minor : Nat)
  | tagHandle (handle : List Char) (stands : List Nat)
  | documentStart
  | documentEnd
  | blockSequence
  | blockMapping
  | blockEnd
  | blockEntry
  | flowSequence
  | flowSequenceEnd
  | flowMapping
  | flowMappingEnd
  | flowEntry
  | key
  | value
  | aliased (name : List Char)
  | anchor (name : List Char)
  | tag (text : TagText)
  | scalar (style : Style) (text : List Char)
  deriving DecidableEq, Repr

/-- The place of a node that may turn out to be a key. -/
structure Candidate where
  /-- How many tokens precede it. -/
  position : Nat
  line : Nat
  column : Nat
  /-- Whether it must be a key, because a mapping has to go on in its column. -/
  needed : Bool

/-- The furthest that a colon may stand behind the start of its key. -/
def longestKey : Nat := 1024

/-- What remains of a text and what is known of its beginning. -/
structure Scan where
  rest : List Char
  line : Nat := 0
  column : Nat := 0
  tokens : Array Token := #[]
  /-- The columns of the open block collections, innermost first. -/
  indents : List Nat := []
  /-- Whether a key may start here. -/
  keyAllowed : Bool := true
  /-- The node that may be a key of the innermost collection. -/
  candidate : Option Candidate := none
  /-- The same for every collection around an open bracket, innermost first. -/
  outer : List (Option Candidate) := []

namespace Scan

/-- Whether a bracket is open. -/
def flow (s : Scan) : Bool := !s.outer.isEmpty

/-- The column of the innermost block collection. -/
def indent? (s : Scan) : Option Nat := s.indents.head?

/-- The least column at which a node inside the innermost block collection may go on. -/
def least (s : Scan) : Nat :=
  match s.indent? with
  | none => 0
  | some n => n + 1

def push (s : Scan) (token : Token) : Scan := { s with tokens := s.tokens.push token }

/-- Goes on to `rest`, an end of what remains. -/
def moveTo (s : Scan) (rest : List Char) : Scan :=
  (s.rest.take (s.rest.length - rest.length)).foldl
    (fun s c =>
      if isBreak c then { s with line := s.line + 1, column := 0 }
      else { s with column := s.column + 1 })
    { s with rest }

/-- Goes on by some characters. -/
def skip (s : Scan) (n : Nat) : Scan := s.moveTo (s.rest.drop n)

/-! ## Keys -/

/-- Forgets the candidate, which must not be needed. -/
def dropCandidate? (s : Scan) : Option Scan :=
  match s.candidate with
  | some candidate => if candidate.needed then none else some { s with candidate := none }
  | none => some s

/-- Notes that the node that starts here may be a key. -/
def noteCandidate? (s : Scan) : Option Scan :=
  if s.keyAllowed then do
    let s ← s.dropCandidate?
    let needed := !s.flow && s.indent? = some s.column
    return { s with candidate := some ⟨s.tokens.size, s.line, s.column, needed⟩ }
  else some s

/-- Forgets a candidate that is too far back. -/
def stillPossible? (s : Scan) : Option Candidate → Option (Option Candidate)
  | none => some none
  | some candidate =>
    if candidate.line < s.line || candidate.column + longestKey < s.column then
      if candidate.needed then none else some none
    else some (some candidate)

/-- Forgets every candidate that is too far back. -/
def dropStale? (s : Scan) : Option Scan := do
  return { s with
    candidate := ← s.stillPossible? s.candidate
    outer := ← s.outer.mapM s.stillPossible? }

/-! ## Indentation -/

/-- Closes the block collections that are deeper than a column; all of them where there is none. -/
def closeDeeper (s : Scan) (column : Option Nat) : Scan :=
  if s.flow then s
  else
    let deeper := s.indents.takeWhile fun n => match column with
      | none => true
      | some m => m < n
    { s with
      tokens := s.tokens ++ (deeper.map fun _ => Token.blockEnd).toArray
      indents := s.indents.drop deeper.length }

/-- Opens a block collection at a column, unless one is open there. Its token comes after
`position` tokens. -/
def openAt (s : Scan) (column position : Nat) (token : Token) : Scan :=
  if s.flow || !(s.indent?.all fun n => n < column) then s
  else { s with
    tokens := s.tokens.insertIdxIfInBounds position token
    indents := column :: s.indents }

/-! ## Blanks between tokens -/

/-- Skips blanks, comments and line ends. The result says whether a key may start then: outside of
brackets a new line allows it. Where a key may start, a tab is no blank. -/
def skipBlanks (flow : Bool) : (comment keyAllowed : Bool) → List Char → Bool × List Char
  | _, keyAllowed, [] => (keyAllowed, [])
  | comment, keyAllowed, c :: rest =>
    if isBreak c then skipBlanks flow false (keyAllowed || !flow) rest
    else if comment then skipBlanks flow true keyAllowed rest
    else if c = ' ' || (c = '\t' && (flow || !keyAllowed)) then skipBlanks flow false keyAllowed rest
    else if c = '#' then skipBlanks flow true keyAllowed rest
    else (keyAllowed, c :: rest)

/-- Goes on to the next token. -/
def toToken (s : Scan) : Scan :=
  let (keyAllowed, rest) := skipBlanks s.flow false s.keyAllowed s.rest
  { s.moveTo rest with keyAllowed }

/-! ## Structure -/

/-- What a bracket, a comma or the mark of a document does: it forgets the candidate and leaves it
open whether a key may follow. -/
def mark? (s : Scan) (keyAllowed : Bool) (width : Nat) (token : Token) : Option Scan := do
  let s ← s.dropCandidate?
  return ({ s with keyAllowed }.skip width).push token

/-- A mark between documents. -/
def documentMark? (s : Scan) (token : Token) : Option Scan :=
  (s.closeDeeper none).mark? false 3 token

/-- An opening bracket. -/
def openBracket? (s : Scan) (token : Token) : Option Scan := do
  let s ← s.noteCandidate?
  return ({ s with
    candidate := none
    outer := s.candidate :: s.outer
    keyAllowed := true }.skip 1).push token

/-- A closing bracket. -/
def closeBracket? (s : Scan) (token : Token) : Option Scan := do
  let s ← s.mark? false 1 token
  match s.outer with
  | [] => return s
  | candidate :: outer => return { s with candidate, outer }

/-- The dash before an item. -/
def blockEntry? (s : Scan) : Option Scan := do
  if s.flow then s.mark? true 1 .blockEntry
  else if !s.keyAllowed then none
  else (s.openAt s.column s.tokens.size .blockSequence).mark? true 1 .blockEntry

/-- The question mark before a key. -/
def key? (s : Scan) : Option Scan := do
  if s.flow then s.mark? false 1 .key
  else if !s.keyAllowed then none
  else (s.openAt s.column s.tokens.size .blockMapping).mark? true 1 .key

/-- The colon behind a key. -/
def value? (s : Scan) : Option Scan :=
  match s.candidate with
  | some candidate =>
    let s := { s with
      tokens := s.tokens.insertIdxIfInBounds candidate.position .key
      candidate := none
      keyAllowed := false }
    some (((s.openAt candidate.column candidate.position .blockMapping).skip 1).push .value)
  | none =>
    if s.flow then some (({ s with keyAllowed := false }.skip 1).push .value)
    else if !s.keyAllowed then none
    else some (((s.openAt s.column s.tokens.size .blockMapping).skip 1).push .value)

/-! ## Anchors, tags and directives -/

/-- Characters that may follow the name of an anchor besides blanks. -/
def endsName : List Char → Bool
  | [] => true
  | c :: rest => atBlank (c :: rest) || c ∈ ['?', ':', ',', ']', '\x7d', '%', '@', '\x60']

/-- An anchor, or a reference to one. -/
def anchor? (s : Scan) (token : List Char → Token) : Option Scan := do
  let s ← s.noteCandidate?
  let name := (s.rest.drop 1).takeWhile isWord
  let rest := (s.rest.drop 1).dropWhile isWord
  if name.isEmpty || !endsName rest then none
  else return ({ s with keyAllowed := false }.moveTo rest).push (token name)

/-- Characters of a tag; between angle brackets commas and square brackets as well. -/
def isTagChar (bracketed : Bool) (c : Char) : Bool :=
  isWord c || c ∈ [';', '/', '?', ':', '@', '&', '=', '+', '$', '.', '!', '~', '*', '\'', '(', ')']
    || (bracketed && c ∈ [',', '[', ']'])

/-- How many bytes the character has that starts with a byte. -/
def byteLength? (byte : Nat) : Option Nat :=
  if byte < 0x80 then some 1
  else if 0xC0 ≤ byte && byte < 0xE0 then some 2
  else if 0xE0 ≤ byte && byte < 0xF0 then some 3
  else if 0xF0 ≤ byte && byte < 0xF8 then some 4
  else none

/-- The bytes of a tag and what follows it. A percent sign gives a byte by two digits; `pending`
bytes of a character are still to come. -/
def tagBytes (bracketed : Bool) (pending : Nat) : List Char → Option (List Nat × List Char)
  | '%' :: a :: b :: rest => do
    let byte := 16 * (← Number.hexDigit? a) + (← Number.hexDigit? b)
    let pending ←
      if pending = 0 then (byteLength? byte).map (· - 1)
      else if 0x80 ≤ byte && byte < 0xC0 then some (pending - 1)
      else none
    let (more, rest) ← tagBytes bracketed pending rest
    return (byte :: more, rest)
  | '%' :: _ => none
  | [] => if pending = 0 then some ([], []) else none
  | c :: rest =>
    if pending ≠ 0 then none
    else if isTagChar bracketed c then do
      let (more, rest) ← tagBytes bracketed 0 rest
      return (c.toNat :: more, rest)
    else some ([], c :: rest)

/-- A handle: an exclamation mark, and a name with another one behind it where there is one. -/
def tagHandle? : List Char → Option (List Char × List Char)
  | '!' :: rest =>
    let name := rest.takeWhile isWord
    match rest.dropWhile isWord with
    | '!' :: rest => some ('!' :: name ++ ['!'], rest)
    | rest => some ('!' :: name, rest)
  | _ => none

/-- A tag and what follows it. -/
def tag? : List Char → Option (TagText × List Char)
  | '!' :: '<' :: rest => do
    let (suffix, rest) ← tagBytes true 0 rest
    match suffix, rest with
    | _ :: _, '>' :: rest => some (⟨[], suffix⟩, rest)
    | _, _ => none
  | s => do
    let (handle, rest) ← tagHandle? s
    let (suffix, rest) ← tagBytes false 0 rest
    if 1 < handle.length && handle.getLast? = some '!' then
      if suffix.isEmpty then none else some (⟨handle, suffix⟩, rest)
    else
      let suffix := (handle.drop 1).map Char.toNat ++ suffix
      if suffix.isEmpty then some (⟨[], ['!'.toNat]⟩, rest) else some (⟨['!'], suffix⟩, rest)

/-- A tag before a node. -/
def tagToken? (s : Scan) : Option Scan := do
  let s ← s.noteCandidate?
  let (tag, rest) ← tag? s.rest
  if atBlank rest || (s.flow && rest.head? = some ',') then
    return ({ s with keyAllowed := false }.moveTo rest).push (.tag tag)
  else none

/-- A number of a version, of at most nine digits. -/
def versionNumber? (s : List Char) : Option (Nat × List Char) :=
  let digits := s.takeWhile Char.isDigit
  if digits.isEmpty || 9 < digits.length then none
  else some (digits.foldl (fun n c => 10 * n + (c.toNat - '0'.toNat)) 0, s.dropWhile Char.isDigit)

/-- What a directive says, without its comment. -/
def directive? (name : List Char) (s : List Char) : Option (Token × List Char) :=
  let s' := s.dropWhile isBlank
  if name = "YAML".toList then do
    let (major, rest) ← versionNumber? s'
    match rest with
    | '.' :: rest =>
      let (minor, rest) ← versionNumber? rest
      return (.version major minor, rest)
    | _ => none
  else if name = "TAG".toList then do
    let (handle, rest) ← tagHandle? s'
    if handle.getLast? ≠ some '!' then none
    if !startsBlank rest then none
    let (stands, rest) ← tagBytes true 0 (rest.dropWhile isBlank)
    if stands.isEmpty || !atBlank rest then none
    return (.tagHandle handle stands, rest)
  else none

/-- A line that starts with a percent sign. -/
def directiveLine? (s : Scan) : Option Scan := do
  let s ← (s.closeDeeper none).dropCandidate?
  let name := (s.rest.drop 1).takeWhile isWord
  let rest := (s.rest.drop 1).dropWhile isWord
  if name.isEmpty || !atBlank rest then none
  let (token, rest) ← directive? name rest
  let rest ← skipComment? rest
  return ({ s with keyAllowed := false }.moveTo (rest.drop 1)).push token

/-! ## Scalars -/

/-- A plain scalar. A key may start after it only if a line ended behind it. -/
def plain? (s : Scan) : Option Scan := do
  let s ← s.noteCandidate?
  let (text, broken, rest) ← plainFrom s.flow s.least s.column {} s.rest
  return ({ s with keyAllowed := broken }.moveTo rest).push (.scalar .plain text)

/-- A scalar between quotes. -/
def quoted? (s : Scan) (style : Style)
    (read : Nat → Gap → List Char → Option (List Char × List Char)) : Option Scan := do
  let s ← s.noteCandidate?
  let (text, rest) ← read (s.column + 1) {} (s.rest.drop 1)
  return ({ s with keyAllowed := false }.moveTo rest).push (.scalar style text)

/-- A block scalar. -/
def block? (s : Scan) (style : Style) : Option Scan := do
  let s ← s.dropCandidate?
  let (text, rest) ← blockScalar? (style = .folded) s.indent? (s.column + 1) (s.rest.drop 1)
  return ({ s with keyAllowed := true }.moveTo rest).push (.scalar style text)

/-! ## All tokens -/

/-- The next token, which starts here. -/
def token? (s : Scan) : Option Scan :=
  match s.rest with
  | [] => none
  | c :: rest =>
    if s.column = 0 && c = '%' then s.directiveLine?
    else if s.column = 0 && atDocumentMark s.rest then
      s.documentMark? (if c = '-' then .documentStart else .documentEnd)
    else match c with
      | '[' => s.openBracket? .flowSequence
      | '\x7b' => s.openBracket? .flowMapping
      | ']' => s.closeBracket? .flowSequenceEnd
      | '\x7d' => s.closeBracket? .flowMappingEnd
      | ',' => s.mark? true 1 .flowEntry
      | '*' => s.anchor? .aliased
      | '&' => s.anchor? .anchor
      | '!' => s.tagToken?
      | '\'' => s.quoted? .singleQuoted singleQuotedFrom
      | '"' => s.quoted? .doubleQuoted doubleQuotedFrom
      | '-' =>
        if atBlank rest then s.blockEntry? else s.plain?
      | '?' => if s.flow || atBlank rest then s.key? else s.plain?
      | ':' => if s.flow || atBlank rest then s.value? else s.plain?
      | '|' => if s.flow then none else s.block? .literal
      | '>' => if s.flow then none else s.block? .folded
      | _ => if c ∈ ['#', '%', '@', '\x60', '\t'] then none else s.plain?

/-- The end of the text. -/
def finish? (s : Scan) : Option (List Token) := do
  let s ← (s.closeDeeper none).dropCandidate?
  return s.tokens.toList

/-- The tokens of what remains; `fuel` bounds their number. -/
def tokensFrom? : Nat → Scan → Option (List Token)
  | 0, _ => none
  | fuel + 1, s => do
    let s ← s.toToken.dropStale?
    if s.rest.isEmpty then s.finish?
    else tokensFrom? fuel (← (s.closeDeeper (some s.column)).token?)

end Scan

/-- The tokens of a text. A mark of the byte order at its start takes up a column. -/
def Token.scan? (text : List Char) : Option (List Token) := do
  let text ← prepare? text
  let start : Scan := match text with
    | '\ufeff' :: rest => { rest, column := 1 }
    | _ => { rest := text }
  start.tokensFrom? (text.length + 2)

end Registrar.Yaml
