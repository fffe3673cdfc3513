/-!
# Doubled marks

A text that stands between two marks may hold the mark itself: it is written twice there. So a
single mark inside never ends the text, and no character is added but marks (`notMem_enclosed`).
-/
namespace Registrar.Text

/-- The text with every `mark` in it written twice. -/
def doubled (mark : Char) (s : List Char) : List Char :=
  s.flatMap fun c => if c = mark then [mark, mark] else [c]

/-- The text between two marks. -/
def enclosed (mark : Char) (s : List Char) : List Char := mark :: doubled mark s ++ [mark]

@[simp] theorem doubled_nil (mark : Char) : doubled mark [] = [] := rfl

theorem doubled_cons (mark c : Char) (s : List Char) :
    doubled mark (c :: s) = (if c = mark then [mark, mark] else [c]) ++ doubled mark s := rfl

theorem notMem_doubled {mark c : Char} {s : List Char} (hmark : c ≠ mark) (h : c ∉ s) :
    c ∉ doubled mark s := by
  induction s with
  | nil => exact List.not_mem_nil
  | cons d rest ih =>
    rw [List.mem_cons, not_or] at h
    rw [doubled_cons, List.mem_append, not_or]
    refine ⟨?_, ih h.2⟩
    split <;> simp [hmark, h.1]

/-- No other character stands in the text between the marks. -/
theorem notMem_enclosed {mark c : Char} {s : List Char} (hmark : c ≠ mark) (h : c ∉ s) :
    c ∉ enclosed mark s := by
  simp [enclosed, hmark, notMem_doubled hmark h]

end Registrar.Text
