import Registrar.Proofs.Number.Plain
import Registrar.Proofs.Sql.Array
import Registrar.Text.Doubled
import Registrar.Text.Utf8
/-!
# The parts of a statement

How a server takes a statement apart. Spaces stand between the parts. A name between double quotes
and a text between single quotes hold their quote where it stands twice, and a backslash is a
character like any other. Bare words count in lower case, and numbers are digits with or without a
point. What would be read in another way is refused: comments, operators other than a minus sign
before a digit, numbers with an exponent or with a letter behind them, a word with a quote behind it,
and names that the server would not take or would cut off.

For each kind of part, `Lexes` has a rule that says how it is taken off the front of a text, by what
stands behind it at most. So whatever a name or a text holds, it is one part and nothing else
(`Lexes.name`, `Lexes.text`).
-/
namespace Registrar.Sql

/-- A part of a statement. -/
inductive Token
  /-- A bare word in lower case. -/
  | word (s : List Char)
  /-- A name between double quotes. -/
  | name (s : String)
  /-- A text between single quotes. -/
  | text (s : String)
  /-- Digits with or without a point. -/
  | number (s : List Char)
  | mark (c : Char)
  /-- Two colons. -/
  | cast
  deriving DecidableEq

/-- Where in a statement a reader is. -/
inductive LexMode
  | between
  | word (s : List Char)
  | number (s : List Char)
  | name (s : List Char)
  /-- Behind a quote in a name, which may be the first of two. -/
  | nameQuote (s : List Char)
  | text (s : List Char)
  /-- Behind a quote in a text, which may be the first of two. -/
  | textQuote (s : List Char)
  | minus
  | colon
  deriving DecidableEq

def isWordStart (c : Char) : Bool := c.isAlpha || c == '_' || 128 ≤ c.toNat

def isWordChar (c : Char) : Bool := isWordStart c || Number.isDigit c || c == '$'

/-- The most bytes of a name. -/
def longestName : Nat := 63

/-- A name that the server takes as it is. -/
def nameToken? (s : List Char) : Option Token :=
  if s = [] ∨ '\x00' ∈ s ∨ longestName < Text.utf8Length s then none
  else some (.name (String.ofList s))

/-- The part that ends here, if the text may end here. -/
def LexMode.close : LexMode → Option (List Token)
  | between => some []
  | word s => some [.word (s.map Char.toLower)]
  | number s => some [.number s]
  | nameQuote s => (nameToken? s).map fun token => [token]
  | textQuote s => some [.text (String.ofList s)]
  | name _ | text _ | minus | colon => none

/-- The part that starts with a character. -/
def LexMode.start (c : Char) : Option (List Token × LexMode) :=
  if isSpace c then some ([], between)
  else if c = '"' then some ([], name [])
  else if c = '\'' then some ([], text [])
  else if Number.isDigit c then some ([], number [c])
  else if isWordStart c then some ([], word [c])
  else if c = '-' then some ([.mark '-'], minus)
  else if c = ':' then some ([], colon)
  else if c ∈ "(),.[]".toList then some ([.mark c], between)
  else none

/-- The part before a character ends, and another one starts with it. -/
def LexMode.next (mode : LexMode) (c : Char) : Option (List Token × LexMode) := do
  let ended ← mode.close
  let (started, mode) ← start c
  return (ended ++ started, mode)

/-- What a character completes, and where the reader is behind it. -/
def LexMode.step : LexMode → Char → Option (List Token × LexMode)
  | between, c => start c
  | word s, c =>
    if isWordChar c then some ([], word (s ++ [c]))
    else if c = '"' ∨ c = '\'' then none
    else (word s).next c
  | number s, c =>
    if Number.isDigit c ∨ c = '.' then some ([], number (s ++ [c]))
    else if isWordChar c ∨ c = '"' ∨ c = '\'' then none
    else (number s).next c
  | name s, c => some ([], if c = '"' then nameQuote s else name (s ++ [c]))
  | nameQuote s, c => if c = '"' then some ([], name (s ++ [c])) else (nameQuote s).next c
  | text s, c => some ([], if c = '\'' then textQuote s else text (s ++ [c]))
  | textQuote s, c => if c = '\'' then some ([], text (s ++ [c])) else (textQuote s).next c
  | minus, c => if Number.isDigit c then some ([], number [c]) else none
  | colon, c => if c = ':' then some ([.cast], between) else none

/-- The parts from a place in a statement on. -/
def lexFrom? : LexMode → List Char → Option (List Token)
  | mode, [] => mode.close
  | mode, c :: rest => do
    let (tokens, mode) ← mode.step c
    return tokens ++ (← lexFrom? mode rest)

/-- The text has these parts. -/
def Lexes (s : List Char) (tokens : List Token) : Prop := lexFrom? .between s = some tokens

/-- Whether the characters are those of a bare word. -/
def isBareWord : List Char → Bool
  | [] => false
  | c :: rest => decide (LexMode.step .between c = some ([], .word [c])) && rest.all isWordChar

/-- The text does not go on with a character that could belong to a word or a number before it. -/
def Stops (s : List Char) : Prop := ∀ c ∈ s.head?, c ∈ " ,)(:[".toList

/-! ## Rules -/

variable {s : List Char} {tokens : List Token}

/-- A part ends where the next character starts another one. -/
theorem lexFrom?_of_close {mode : LexMode} {ended : List Token} (hclose : mode.close = some ended)
    (hnext : ∀ c ∈ s.head?, mode.step c = mode.next c) (h : Lexes s tokens) :
    lexFrom? mode s = some (ended ++ tokens) := by
  unfold Lexes at h
  cases s with
  | nil =>
    rw [lexFrom?, LexMode.close] at h
    cases h
    rw [lexFrom?, hclose, List.append_nil]
  | cons c rest =>
    rw [lexFrom?, hnext c rfl, LexMode.next, hclose]
    rw [lexFrom?, LexMode.step] at h
    simp only [Option.bind_eq_bind, Option.bind_eq_some_iff, Option.bind_some, Option.pure_def,
      Option.some.injEq, Prod.exists] at h ⊢
    obtain ⟨started, mode', hstart, more, hmore, rfl⟩ := h
    exact ⟨_, _, ⟨_, _, hstart, rfl⟩, more, hmore, List.append_assoc _ _ _⟩

theorem Stops.char {c : Char} (h : Stops s) (hc : c ∈ s.head?) :
    isWordChar c = false ∧ Number.isDigit c = false ∧ c ≠ '.' ∧ c ≠ '"' ∧ c ≠ '\'' := by
  have hall : ∀ c ∈ " ,)(:[".toList,
      isWordChar c = false ∧ Number.isDigit c = false ∧ c ≠ '.' ∧ c ≠ '"' ∧ c ≠ '\'' :=
    Text.forall_mem_of_all (by decide)
  exact hall c (h c hc)

/-- A character that completes nothing only takes the reader further. -/
theorem lexFrom?_cons {mode mode' : LexMode} {c : Char} (h : mode.step c = some ([], mode'))
    (rest : List Char) : lexFrom? mode (c :: rest) = lexFrom? mode' rest := by
  rw [lexFrom?, h]
  cases hrest : lexFrom? mode' rest <;> simp [hrest]

/-- A digit starts a number. -/
theorem LexMode.step_digit {c : Char} (hc : Number.isDigit c = true) :
    LexMode.step .between c = some ([], .number [c]) := by
  have hother : ∀ d, Number.isDigit d = false → c ≠ d := by
    rintro d hd rfl
    rw [hc] at hd
    cases hd
  have hspace : isSpace c = false := by
    simp only [isSpace, Bool.or_eq_false_iff, beq_eq_false_iff_ne]
    refine ⟨⟨⟨⟨⟨?_, ?_⟩, ?_⟩, ?_⟩, ?_⟩, ?_⟩
    all_goals
      exact hother _ (by decide)
  simp [LexMode.step, LexMode.start, hspace, hc, hother '"' (by decide), hother '\'' (by decide)]

/-- What stands between two quotes is read up to the second one, as it was before its quotes were
doubled. -/
theorem lexFrom?_doubled {quote : Char} {inside behind : List Char → LexMode}
    (hinside : ∀ s c, (inside s).step c =
      some ([], if c = quote then behind s else inside (s ++ [c])))
    (hbehind : ∀ s, (behind s).step quote = some ([], inside (s ++ [quote])))
    (content acc rest : List Char) :
    lexFrom? (inside acc) (Text.doubled quote content ++ quote :: rest) =
      lexFrom? (behind (acc ++ content)) rest := by
  induction content generalizing acc with
  | nil =>
    rw [Text.doubled_nil, List.nil_append, lexFrom?_cons (hinside acc quote), if_pos rfl,
      List.append_nil]
  | cons c content ih =>
    have happend : acc ++ c :: content = (acc ++ [c]) ++ content := by simp
    rw [Text.doubled_cons, happend, ← ih (acc ++ [c])]
    by_cases hc : c = quote
    · subst hc
      rw [if_pos rfl, List.cons_append, List.cons_append, List.cons_append,
        lexFrom?_cons (hinside acc c), if_pos rfl, List.cons_append, List.nil_append,
        lexFrom?_cons (hbehind acc)]
    · rw [if_neg hc, List.cons_append, List.cons_append, lexFrom?_cons (hinside acc c), if_neg hc,
        List.nil_append]

namespace Lexes

theorem nil : Lexes [] [] := rfl

theorem space (h : Lexes s tokens) : Lexes (' ' :: s) tokens := by
  rw [Lexes, lexFrom?_cons rfl]
  exact h

theorem mark {c : Char} (hc : c ∈ "(),.[]".toList) (h : Lexes s tokens) :
    Lexes (c :: s) (.mark c :: tokens) := by
  have hall : ∀ c ∈ "(),.[]".toList,
      LexMode.start c = some ([.mark c], .between) := Text.forall_mem_of_all (by decide)
  rw [Lexes, lexFrom?, LexMode.step, hall c hc]
  unfold Lexes at h
  simp [h]

theorem cast (h : Lexes s tokens) : Lexes (':' :: ':' :: s) (.cast :: tokens) := by
  rw [Lexes, lexFrom?_cons rfl, lexFrom?]
  unfold Lexes at h
  simp [LexMode.step, h]

/-- **Names are one part**, whatever is in them, if the server takes them as they are. -/
theorem name {name : String} (hne : name ≠ "") (hnul : '\x00' ∉ name.toList)
    (hlength : Text.utf8Length name.toList ≤ longestName) (hs : s.head? ≠ some '"')
    (h : Lexes s tokens) : Lexes (Text.enclosed '"' name.toList ++ s) (.name name :: tokens) := by
  have hquote : lexFrom? .between ('"' :: (Text.doubled '"' name.toList ++ '"' :: s)) =
      lexFrom? (.nameQuote name.toList) s := by
    rw [lexFrom?_cons rfl]
    exact lexFrom?_doubled (fun _ _ => rfl) (fun _ => rfl) name.toList [] s
  have htoken : nameToken? name.toList = some (.name name) := by
    have hnil : name.toList ≠ [] := by simpa using hne
    rw [nameToken?, if_neg (by simp [hnil, hnul, hlength]), String.ofList_toList]
  rw [Lexes, Text.enclosed, List.append_assoc, List.singleton_append, List.cons_append, hquote]
  have hclose : LexMode.close (.nameQuote name.toList) = some [.name name] := by
    rw [LexMode.close, htoken]
    rfl
  refine lexFrom?_of_close hclose ?_ h
  intro c hc
  have hother : c ≠ '"' := fun heq => hs (heq ▸ hc)
  rw [LexMode.step, if_neg hother]

/-- **Texts are one part**, whatever is in them. -/
theorem text {content : List Char} (hs : s.head? ≠ some '\'') (h : Lexes s tokens) :
    Lexes (Text.enclosed '\'' content ++ s) (.text (String.ofList content) :: tokens) := by
  have hquote : lexFrom? .between ('\'' :: (Text.doubled '\'' content ++ '\'' :: s)) =
      lexFrom? (.textQuote content) s := by
    rw [lexFrom?_cons rfl]
    exact lexFrom?_doubled (fun _ _ => rfl) (fun _ => rfl) content [] s
  rw [Lexes, Text.enclosed, List.append_assoc, List.singleton_append, List.cons_append, hquote]
  have hclose : LexMode.close (.textQuote content) = some [.text (String.ofList content)] := rfl
  refine lexFrom?_of_close hclose ?_ h
  intro c hc
  have hother : c ≠ '\'' := fun heq => hs (heq ▸ hc)
  rw [LexMode.step, if_neg hother]

theorem word {w lower : List Char} (hw : isBareWord w = true) (hlower : w.map Char.toLower = lower)
    (hs : Stops s) (h : Lexes s tokens) : Lexes (w ++ s) (.word lower :: tokens) := by
  have hrun : ∀ (w acc : List Char), (∀ d ∈ w, isWordChar d = true) →
      lexFrom? (.word acc) (w ++ s) = lexFrom? (.word (acc ++ w)) s := by
    intro w
    induction w with
    | nil => simp
    | cons d w ih =>
      intro acc hw
      obtain ⟨hd, hw⟩ := List.forall_mem_cons.1 hw
      have hstep : LexMode.step (.word acc) d = some ([], .word (acc ++ [d])) := by
        simp [LexMode.step, hd]
      rw [List.cons_append, lexFrom?_cons hstep, ih _ hw, List.append_assoc, List.singleton_append]
  subst hlower
  cases w with
  | nil => cases hw
  | cons c w =>
    rw [isBareWord, Bool.and_eq_true, decide_eq_true_iff, List.all_eq_true] at hw
    rw [Lexes, List.cons_append, lexFrom?_cons hw.1, hrun w _ hw.2, List.singleton_append]
    have hclose : LexMode.close (.word (c :: w)) = some [.word ((c :: w).map Char.toLower)] := rfl
    refine lexFrom?_of_close hclose ?_ h
    intro d hd
    obtain ⟨hword, -, -, hquote, hquote'⟩ := hs.char hd
    simp [LexMode.step, hword, hquote, hquote']

/-- A number starts with a digit and goes on with digits and points. -/
theorem number {c : Char} {w : List Char} (hc : Number.isDigit c = true)
    (hw : ∀ d ∈ w, Number.isDigit d = true ∨ d = '.') (hs : Stops s) (h : Lexes s tokens) :
    Lexes (c :: w ++ s) (.number (c :: w) :: tokens) ∧
      Lexes ('-' :: c :: w ++ s) (.mark '-' :: .number (c :: w) :: tokens) := by
  have hrun : ∀ (acc : List Char),
      lexFrom? (.number acc) (w ++ s) = lexFrom? (.number (acc ++ w)) s := by
    induction w with
    | nil => simp
    | cons d w ih =>
      intro acc
      obtain ⟨hd, hw⟩ := List.forall_mem_cons.1 hw
      have hstep : LexMode.step (.number acc) d = some ([], .number (acc ++ [d])) := by
        simp [LexMode.step, hd]
      rw [List.cons_append, lexFrom?_cons hstep, ih hw, List.append_assoc, List.singleton_append]
  have hend : lexFrom? (.number (c :: w)) s = some (.number (c :: w) :: tokens) := by
    have hclose : LexMode.close (.number (c :: w)) = some [.number (c :: w)] := rfl
    refine lexFrom?_of_close hclose ?_ h
    intro d hd
    obtain ⟨hword, hdigit, hpoint, hquote, hquote'⟩ := hs.char hd
    simp [LexMode.step, hword, hdigit, hpoint, hquote, hquote']
  constructor
  · rw [Lexes, List.cons_append, lexFrom?_cons (LexMode.step_digit hc), hrun, List.singleton_append, hend]
  · rw [Lexes, List.cons_append, List.cons_append, lexFrom?]
    have hstep : LexMode.step .minus c = some ([], .number [c]) := by simp [LexMode.step, hc]
    have hminus : LexMode.step .between '-' = some ([.mark '-'], .minus) := rfl
    rw [hminus]
    simp only [Option.bind_eq_bind, Option.bind_some, lexFrom?_cons hstep, hrun,
      List.singleton_append, hend]
    rfl

end Lexes

end Registrar.Sql
