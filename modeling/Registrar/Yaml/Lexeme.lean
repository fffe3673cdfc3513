import Registrar.Number.Whole
/-!
# Scalars in a YAML text

A scalar is written plain, between quotes, or as a block of indented lines. Wherever a scalar goes
on over a line end, the blanks around the line end are dropped and the line ends are folded: one
becomes a space, and of several the first is dropped (`Gap.text`).

A text is prepared first (`prepare?`): the four ways to end a line that mean nothing else become a
line feed, and a text with a character that no YAML text may hold is refused.
-/
namespace Registrar.Yaml

/-! ## Characters -/

/-- Characters that end a line. A line separator and a paragraph separator keep themselves. -/
def isBreak (c : Char) : Bool := c = '\n' || c = '\u2028' || c = '\u2029'

def isBlank (c : Char) : Bool := c = ' ' || c = '\t'

/-- Whether the text ends here, or a blank or a line end stands here. -/
def atBlank : List Char → Bool
  | [] => true
  | c :: _ => isBlank c || isBreak c

/-- Characters of the names of anchors, tags and directives. -/
def isWord (c : Char) : Bool := c.isAlphanum || c = '_' || c = '-'

/-- Characters that a YAML text may hold. -/
def isAllowed (c : Char) : Bool :=
  let n := c.toNat
  n = 0x09 || n = 0x0A || n = 0x0D || (0x20 ≤ n && n ≤ 0x7E) || n = 0x85
    || (0xA0 ≤ n && n ≤ 0xFFFD) || 0x10000 ≤ n

/-- Line feeds in place of carriage returns, pairs of both, and next-line characters. -/
def endLines : List Char → List Char
  | [] => []
  | '\r' :: '\n' :: rest => '\n' :: endLines rest
  | '\r' :: rest => '\n' :: endLines rest
  | '\u0085' :: rest => '\n' :: endLines rest
  | c :: rest => c :: endLines rest

/-- The text with its lines ended by line feeds, if it holds only what it may hold. -/
def prepare? (s : List Char) : Option (List Char) :=
  if s.all isAllowed then some (endLines s) else none

/-- Whether three points or three dashes stand alone here, as they do between documents. -/
def atDocumentMark : List Char → Bool
  | '-' :: '-' :: '-' :: rest => atBlank rest
  | '.' :: '.' :: '.' :: rest => atBlank rest
  | _ => false

/-! ## Gaps -/

/-- What stands between two words of a scalar. -/
structure Gap where
  /-- The blanks, in reverse, as long as no line has ended. -/
  blanks : List Char := []
  /-- The line ends, in reverse. -/
  breaks : List Char := []
  /-- Whether a backslash hid the first line end. -/
  hidden : Bool := false

namespace Gap

/-- Whether a line ended in the gap. -/
def broken (gap : Gap) : Bool := gap.hidden || !gap.breaks.isEmpty

/-- Whether there is a gap at all. -/
def isOpen (gap : Gap) : Bool := gap.broken || !gap.blanks.isEmpty

/-- The gap with one more character, which is a blank or a line end. -/
def add (gap : Gap) (c : Char) : Gap :=
  if isBreak c then { gap with blanks := [], breaks := c :: gap.breaks }
  else if gap.broken then gap
  else { gap with blanks := c :: gap.blanks }

/-- Several line ends, folded. -/
def fold : List Char → List Char
  | ['\n'] => [' ']
  | '\n' :: more => more
  | breaks => breaks

/-- What the gap stands for. -/
def text (gap : Gap) : List Char :=
  if gap.hidden then gap.breaks.reverse
  else if gap.broken then fold gap.breaks.reverse
  else gap.blanks.reverse

end Gap

/-! ## Plain scalars -/

/-- Characters that mean something of their own between brackets. -/
def isFlowMark (c : Char) : Bool :=
  c = ',' || c = '[' || c = ']' || c = '\x7b' || c = '\x7d'

/-- Whether a plain scalar cannot go on here; `flow` says whether brackets are open. -/
def endsPlain (flow : Bool) : List Char → Bool
  | [] => true
  | c :: rest => (c = ':' && atBlank rest) || (flow && isFlowMark c)

/-- Whether a colon stands here that a plain scalar between brackets must not hold. -/
def strayColon (flow : Bool) : List Char → Bool
  | ':' :: c :: _ => flow && (isFlowMark c || c = '?')
  | _ => false

/-- A plain scalar, whether it ended after a line end, and what follows. Its lines begin at column
`least` or later. -/
def plainFrom (flow : Bool) (least : Nat) (column : Nat) (gap : Gap) :
    List Char → Option (List Char × Bool × List Char)
  | [] => some ([], gap.broken, [])
  | c :: rest =>
    if isBreak c then plainFrom flow least 0 (gap.add c) rest
    else if isBlank c then
      if gap.broken && column < least && c = '\t' then none
      else plainFrom flow least (column + 1) (gap.add c) rest
    else if gap.isOpen && ((gap.broken && !flow && column < least)
        || (column = 0 && atDocumentMark (c :: rest)) || c = '#') then
      some ([], gap.broken, c :: rest)
    else if strayColon flow (c :: rest) then none
    else if endsPlain flow (c :: rest) then some ([], gap.broken, c :: rest)
    else do
      let (more, broken, rest) ← plainFrom flow least (column + 1) {} rest
      return (gap.text ++ c :: more, broken, rest)

/-! ## Quoted scalars -/

/-- A scalar between single quotes, the first of which has been read, and what follows. Inside, a
quote is written twice. -/
def singleQuotedFrom (column : Nat) (gap : Gap) : List Char → Option (List Char × List Char)
  | [] => none
  | c :: rest =>
    if isBreak c then singleQuotedFrom 0 (gap.add c) rest
    else if isBlank c then singleQuotedFrom (column + 1) (gap.add c) rest
    else if column = 0 && atDocumentMark (c :: rest) then none
    else if c = '\'' then
      match rest with
      | '\'' :: rest => do
        let (more, rest) ← singleQuotedFrom (column + 2) {} rest
        return (gap.text ++ '\'' :: more, rest)
      | _ => some (gap.text, rest)
    else do
      let (more, rest) ← singleQuotedFrom (column + 1) {} rest
      return (gap.text ++ c :: more, rest)

/-- The character that a letter stands for after a backslash. -/
def escaped? : Char → Option Char
  | '0' => some '\x00'
  | 'a' => some '\x07'
  | 'b' => some '\x08'
  | 't' | '\t' => some '\t'
  | 'n' => some '\n'
  | 'v' => some '\x0b'
  | 'f' => some '\x0c'
  | 'r' => some '\r'
  | 'e' => some '\x1b'
  | ' ' => some ' '
  | '"' => some '"'
  | '/' => some '/'
  | '\\' => some '\\'
  | 'N' => some '\u0085'
  | '_' => some '\u00a0'
  | 'L' => some '\u2028'
  | 'P' => some '\u2029'
  | _ => none

/-- How many hexadecimal digits follow a letter after a backslash. -/
def escapeLength? : Char → Option Nat
  | 'x' => some 2
  | 'u' => some 4
  | 'U' => some 8
  | _ => none

/-- The character with a code point in hexadecimal digits. -/
def coded? (digits : List Char) : Option Char := do
  let n ← Number.readBase? 16 digits
  if n.isValidChar then some (Char.ofNat n) else none

/-- A scalar between double quotes, the first of which has been read, and what follows. -/
def doubleQuotedFrom (column : Nat) (gap : Gap) : List Char → Option (List Char × List Char)
  | [] => none
  | c :: rest =>
    if isBreak c then doubleQuotedFrom 0 (gap.add c) rest
    else if isBlank c then doubleQuotedFrom (column + 1) (gap.add c) rest
    else if column = 0 && atDocumentMark (c :: rest) then none
    else if c = '"' then some (gap.text, rest)
    else if c = '\\' then
      match rest with
      | [] => none
      | e :: rest =>
        if isBreak e then do
          let (more, rest) ← doubleQuotedFrom 0 { hidden := true } rest
          return (gap.text ++ more, rest)
        else match escapeLength? e with
          | some n =>
            if rest.length < n then none
            else do
              let d ← coded? (rest.take n)
              let (more, rest) ← doubleQuotedFrom (column + 2 + n) {} (rest.drop n)
              return (gap.text ++ d :: more, rest)
          | none => do
            let d ← escaped? e
            let (more, rest) ← doubleQuotedFrom (column + 2) {} rest
            return (gap.text ++ d :: more, rest)
    else do
      let (more, rest) ← doubleQuotedFrom (column + 1) {} rest
      return (gap.text ++ c :: more, rest)
termination_by s => s.length
decreasing_by all_goals simp only [List.length_cons, List.length_drop]; omega

/-! ## Block scalars -/

/-- What happens to the line ends at the end of a block. -/
inductive Chomping
  | strip
  | clip
  | keep
  deriving DecidableEq, Repr

/-- What stands behind the mark of a block: the chomping and the indentation, if it is given. -/
def blockHeader? : List Char → Option (Chomping × Option Nat × List Char)
  | c :: rest =>
    let chomping? (c : Char) : Option Chomping :=
      if c = '+' then some .keep else if c = '-' then some .strip else none
    match chomping? c with
    | some chomping =>
      match rest with
      | d :: rest' =>
        if d = '0' then none
        else if d.isDigit then some (chomping, some (d.toNat - '0'.toNat), rest')
        else some (chomping, none, rest)
      | [] => some (chomping, none, [])
    | none =>
      if c = '0' then none
      else if c.isDigit then
        let width := some (c.toNat - '0'.toNat)
        match rest with
        | d :: rest' =>
          match chomping? d with
          | some chomping => some (chomping, width, rest')
          | none => some (.clip, width, rest)
        | [] => some (.clip, width, [])
      else some (.clip, none, c :: rest)
  | [] => some (.clip, none, [])

/-- The rest of a line that may hold nothing but a comment; without the line end. -/
def skipComment? (s : List Char) : Option (List Char) :=
  let s := s.dropWhile isBlank
  let s := if s.head? = some '#' then s.dropWhile (!isBreak ·) else s
  match s with
  | [] => some []
  | c :: _ => if isBreak c then some s else none

/-- The empty lines and the indentation before a line of a block. -/
structure Margin where
  /-- The ends of the empty lines. -/
  breaks : List Char
  /-- Where the line begins. -/
  column : Nat
  /-- The deepest indentation seen. -/
  deepest : Nat
  rest : List Char

/-- Reads empty lines and indentation, which is `indent` where that is known. -/
def marginFrom (indent : Option Nat) (column deepest : Nat) : List Char → Option Margin
  | [] => some ⟨[], column, max deepest column, []⟩
  | c :: rest =>
    let inside := match indent with
      | none => true
      | some n => column < n
    if isBreak c then do
      let margin ← marginFrom indent 0 (max deepest column) rest
      return { margin with breaks := c :: margin.breaks }
    else if inside && c = ' ' then marginFrom indent (column + 1) deepest rest
    else if inside && c = '\t' then none
    else some ⟨[], column, max deepest column, c :: rest⟩

/-- What stands between two lines of a block: the end of the line before, then empty lines. In a
folded block a line end is folded unless a blank starts one of the lines. -/
def blockGap (folded blankBefore blankAfter : Bool) (lineEnd breaks : List Char) : List Char :=
  if folded && lineEnd = ['\n'] && !blankBefore && !blankAfter then
    if breaks.isEmpty then [' '] else breaks
  else lineEnd ++ breaks

/-- Whether a blank stands here. -/
def startsBlank : List Char → Bool
  | c :: _ => isBlank c
  | [] => false

/-- The lines of a block from a margin on; `fuel` bounds their number. -/
def blockLines (folded : Bool) (chomping : Chomping) (indent : Nat) :
    Nat → (blankBefore : Bool) → (lineEnd : List Char) → Margin → Option (List Char × List Char)
  | 0, _, _, _ => none
  | fuel + 1, blankBefore, lineEnd, margin =>
    if margin.column = indent && !margin.rest.isEmpty then do
      let blankAfter := startsBlank margin.rest
      let line := margin.rest.takeWhile (!isBreak ·)
      let after := margin.rest.dropWhile (!isBreak ·)
      let next ← match after with
        | [] => some ⟨[], margin.column + line.length, 0, []⟩
        | _ :: rest => marginFrom (some indent) 0 0 rest
      let (more, rest) ←
        blockLines folded chomping indent fuel blankAfter (after.take 1) next
      return (blockGap folded blankBefore blankAfter lineEnd margin.breaks ++ line ++ more, rest)
    else
      let last := if chomping = .strip then [] else lineEnd
      let empty := if chomping = .keep then margin.breaks else []
      some (last ++ empty, margin.rest)

/-- A block scalar after its mark, the column at which it ends, and what follows. `outer` is the
indentation of the collection around it. -/
def blockScalar? (folded : Bool) (outer : Option Nat) (column : Nat) (s : List Char) :
    Option (List Char × List Char) := do
  let least := match outer with
    | none => 0
    | some n => n + 1
  let (chomping, width, afterHeader) ← blockHeader? s
  let s' ← skipComment? afterHeader
  let column := if s'.isEmpty then column + s.length else 0
  let given := width.map fun n => outer.getD 0 + n
  let margin ← marginFrom given column 0 (s'.drop 1)
  let indent := given.getD (max 1 (max least margin.deepest))
  blockLines folded chomping indent (s.length + 1) false [] margin

end Registrar.Yaml
