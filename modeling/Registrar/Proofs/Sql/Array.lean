import Registrar.Proofs.Text.Cut
import Registrar.Sql.Array
/-!
# Arrays that are written and read

How a server reads the text of an array with one dimension: between braces, with commas between the
elements and spaces around them. An element between double quotes stands for itself, where a
backslash takes the next character as it is; any other element ends before a comma or a brace, loses
the spaces after it, and is missing if it is the word NULL. A text that a server would read in another
way, such as an array of arrays, is not read at all.

An array of texts is read as these texts, whatever is in them (`readArray?_arrayText`).
-/
namespace Registrar.Sql

/-- The spaces that a server passes over. -/
def isSpace (c : Char) : Bool :=
  c == ' ' || c == '\t' || c == '\n' || c == '\r' || c == '\x0b' || c == '\x0c'

/-- Where in an array a reader is. -/
inductive ArrayMode
  /-- Behind the opening brace. -/
  | opened
  /-- Behind a comma. -/
  | separated
  /-- In an element between double quotes. -/
  | quoted (element : List Char)
  /-- Behind a backslash between double quotes. -/
  | escaped (element : List Char)
  /-- In an element without quotes. -/
  | bare (element : List Char)
  /-- Behind an element between double quotes. -/
  | ended
  /-- Behind the closing brace. -/
  | closed

/-- An element without quotes. -/
def bareElement (element : List Char) : Option String :=
  let text := (element.reverse.dropWhile isSpace).reverse
  if text.map Char.toLower = "null".toList then none else some (String.ofList text)

/-- The elements from a place in an array on. -/
def readElements : ArrayMode → List Char → Option (List (Option String))
  | .closed, [] => some []
  | _, [] => none
  | .closed, c :: rest => if isSpace c then readElements .closed rest else none
  | .opened, c :: rest =>
    if isSpace c then readElements .opened rest
    else if c = '\x7d' then readElements .closed rest
    else if c = '"' then readElements (.quoted []) rest
    else if c = ',' ∨ c = '\x7b' ∨ c = '\\' then none
    else readElements (.bare [c]) rest
  | .separated, c :: rest =>
    if isSpace c then readElements .separated rest
    else if c = '"' then readElements (.quoted []) rest
    else if c = ',' ∨ c = '\x7b' ∨ c = '\x7d' ∨ c = '\\' then none
    else readElements (.bare [c]) rest
  | .quoted element, c :: rest =>
    if c = '"' then (readElements .ended rest).map (some (String.ofList element) :: ·)
    else if c = '\\' then readElements (.escaped element) rest
    else readElements (.quoted (element ++ [c])) rest
  | .escaped element, c :: rest => readElements (.quoted (element ++ [c])) rest
  | .bare element, c :: rest =>
    if c = ',' then (readElements .separated rest).map (bareElement element :: ·)
    else if c = '\x7d' then (readElements .closed rest).map (bareElement element :: ·)
    else if c = '"' ∨ c = '\x7b' ∨ c = '\\' then none
    else readElements (.bare (element ++ [c])) rest
  | .ended, c :: rest =>
    if isSpace c then readElements .ended rest
    else if c = ',' then readElements .separated rest
    else if c = '\x7d' then readElements .closed rest
    else none

/-- The elements of an array, where none is a missing one. -/
def readArray? : List Char → Option (List (Option String))
  | [] => none
  | c :: rest =>
    if isSpace c then readArray? rest
    else if c = '\x7b' then readElements .opened rest
    else none

/-! ## Reading what is written -/

/-- An element is read up to its closing quote. -/
theorem readElements_escaped (s element rest : List Char) :
    readElements (.quoted element) (s.flatMap escapeElementChar ++ '"' :: rest) =
      (readElements .ended rest).map (some (String.ofList (element ++ s)) :: ·) := by
  induction s generalizing element with
  | nil => simp [readElements]
  | cons c s ih =>
    have happend : element ++ c :: s = (element ++ [c]) ++ s := by simp
    rw [List.flatMap_cons, List.append_assoc, happend, ← ih (element ++ [c])]
    unfold escapeElementChar
    by_cases hbackslash : c = '\\'
    · simp [hbackslash, readElements]
    · rw [if_neg hbackslash]
      by_cases hquote : c = '"'
      · simp [hquote, readElements]
      · simp [hbackslash, hquote, readElements]

/-- Elements are read up to the closing brace, after a comma as after the opening brace. -/
theorem readElements_join {mode : ArrayMode} (hmode : mode = .opened ∨ mode = .separated)
    (item : String) (items : List String) :
    readElements mode
        (Text.join [','] ((item :: items).map fun item => elementText item.toList) ++ ['\x7d']) =
      some ((item :: items).map some) := by
  induction items generalizing mode item with
  | nil =>
    rcases hmode with rfl | rfl
    all_goals
      simp [Text.join, elementText, readElements, readElements_escaped, isSpace]
  | cons next items ih =>
    have hquote : ∀ rest, readElements mode ('"' :: rest) = readElements (.quoted []) rest := by
      intro rest
      rcases hmode with rfl | rfl <;> rfl
    have hcomma : ∀ rest, readElements .ended (',' :: rest) = readElements .separated rest :=
      fun _ => rfl
    have hnext := ih (Or.inr rfl) next
    rw [List.map_cons] at hnext
    rw [List.map_cons, List.map_cons, Text.join_cons_cons, elementText, List.cons_append,
      List.cons_append, List.cons_append, List.cons_append, hquote]
    simp only [List.append_assoc, List.cons_append, List.nil_append, readElements_escaped, hcomma,
      hnext]
    simp

/-- **Arrays of texts are read back**, with no element missing. -/
theorem readArray?_arrayText (items : List String) :
    readArray? (arrayText items) = some (items.map some) := by
  cases items with
  | nil => rfl
  | cons item items => exact readElements_join (Or.inl rfl) item items

end Registrar.Sql
