/-!
# Blank characters

A blank is a character of the Unicode property White_Space. Trimming removes blanks from the
ends of a text and nothing else: `trim_eq` cuts the text into blanks, the trimmed text, blanks.
-/
namespace Registrar.Text

/-- White_Space: the five ASCII controls from tab to carriage return, the space, and the
nineteen blanks beyond ASCII. -/
def isBlank (c : Char) : Bool :=
  let n := c.toNat
  n == 0x20 || (0x09 ≤ n && n ≤ 0x0D) || n == 0x85 || n == 0xA0 || n == 0x1680
    || (0x2000 ≤ n && n ≤ 0x200A) || n == 0x2028 || n == 0x2029 || n == 0x202F || n == 0x205F
    || n == 0x3000

/-- The text without the blanks it starts with. -/
def trimStart (s : List Char) : List Char := s.dropWhile isBlank

/-- The text without the blanks it ends with. -/
def trimEnd (s : List Char) : List Char := (s.reverse.dropWhile isBlank).reverse

/-- The text without the blanks at either end. -/
def trim (s : List Char) : List Char := trimEnd (trimStart s)

theorem trimEnd_eq (s : List Char) :
    ∃ post, s = trimEnd s ++ post ∧ ∀ c ∈ post, isBlank c = true := by
  refine ⟨(s.reverse.takeWhile isBlank).reverse, ?_, ?_⟩
  · rw [trimEnd, ← List.reverse_append, List.takeWhile_append_dropWhile, List.reverse_reverse]
  · intro c hc
    exact List.all_eq_true.mp List.all_takeWhile c (List.mem_reverse.mp hc)

/-- A text is its leading blanks, what trimming leaves, and its trailing blanks. -/
theorem trim_eq (s : List Char) :
    ∃ pre post, s = pre ++ trim s ++ post
      ∧ (∀ c ∈ pre, isBlank c = true) ∧ ∀ c ∈ post, isBlank c = true := by
  obtain ⟨post, hs, hpost⟩ := trimEnd_eq (trimStart s)
  refine ⟨s.takeWhile isBlank, post, ?_, ?_, hpost⟩
  · rw [List.append_assoc, trim, ← hs, trimStart, List.takeWhile_append_dropWhile]
  · exact fun c hc => List.all_eq_true.mp List.all_takeWhile c hc

/-- `trim` on strings. -/
def trimmed (s : String) : String := String.ofList (trim s.toList)

end Registrar.Text
