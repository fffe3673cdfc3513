/-!
# Cutting a text

The first occurrence of a mark cuts a text in two, all of its occurrences cut it into pieces, and
line ends cut it into lines. The two halves and the mark between them make up the text
(`eq_of_cutAt?`).
-/
namespace Registrar.Text

/-- The text before and after the first `mark`. -/
def cutAt? (mark : Char) : List Char → Option (List Char × List Char)
  | [] => none
  | c :: rest =>
    if c = mark then some ([], rest)
    else (cutAt? mark rest).map fun (before, after) => (c :: before, after)

theorem eq_of_cutAt? {mark : Char} {s before after : List Char}
    (h : cutAt? mark s = some (before, after)) : s = before ++ mark :: after ∧ mark ∉ before := by
  induction s generalizing before with
  | nil => simp [cutAt?] at h
  | cons c rest ih =>
    by_cases hc : c = mark
    · simp [cutAt?, hc] at h
      obtain ⟨rfl, rfl⟩ := h
      simp [hc]
    · simp [cutAt?, hc] at h
      obtain ⟨b, hr, rfl⟩ := h
      obtain ⟨e, hn⟩ := ih hr
      exact ⟨by simp [e], by simp [hn, Ne.symm hc]⟩

theorem cutAt?_eq_none_iff {mark : Char} {s : List Char} : cutAt? mark s = none ↔ mark ∉ s := by
  induction s with
  | nil => simp [cutAt?]
  | cons c rest ih =>
    by_cases hc : c = mark
    · simp [cutAt?, hc]
    · simp [cutAt?, hc, ih, Ne.symm hc]

/-- The pieces between the occurrences of `mark`; one more than there are marks. -/
def pieces (mark : Char) : List Char → List (List Char)
  | [] => [[]]
  | c :: rest =>
    if c = mark then [] :: pieces mark rest
    else match pieces mark rest with
      | [] => [[c]]
      | first :: others => (c :: first) :: others

/-- The lines of a text: the last line may lack its line feed, and one carriage return before a
line feed belongs to the line end. -/
def lines (s : List Char) : List (List Char) :=
  let all := pieces '\n' s
  let ended := all.dropLast.map fun line =>
    if line.getLast? = some '\r' then line.dropLast else line
  match all.getLast? with
  | some [] => ended
  | some last => ended ++ [last]
  | none => ended

/-- `texts` with `mark` between neighbours. -/
def join (mark : List Char) : List (List Char) → List Char
  | [] => []
  | [s] => s
  | s :: rest => s ++ mark ++ join mark rest

/-- `cutAt?` on strings. -/
def splitOnce? (mark : Char) (s : String) : Option (String × String) :=
  (cutAt? mark s.toList).map fun (before, after) => (String.ofList before, String.ofList after)

end Registrar.Text
