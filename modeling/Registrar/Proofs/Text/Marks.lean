import Registrar.Text.Blank
import Registrar.Text.Cut
/-!
# First marks and blank ends

Where a mark stands first in a text, and which texts trimming leaves alone.
-/
namespace Registrar.Text

variable {mark text rest : List Char} {c : Char}

/-! ## First marks -/

/-- No mark starts inside a text, also none that ends in the `rest` behind it. -/
def Clear (mark text rest : List Char) : Prop :=
  ∀ place < text.length, ¬mark <+: (text ++ rest).drop place

theorem clear_nil : Clear mark [] rest := fun _ hplace => absurd hplace (Nat.not_lt_zero _)

theorem clear_cons :
    Clear mark (c :: text) rest ↔ ¬mark <+: c :: (text ++ rest) ∧ Clear mark text rest := by
  constructor
  · intro h
    exact ⟨h 0 (Nat.zero_lt_succ _), fun place hplace => h (place + 1) (Nat.succ_lt_succ hplace)⟩
  · rintro ⟨hfirst, hrest⟩ place hplace
    cases place with
    | zero => exact hfirst
    | succ place => exact hrest place (Nat.lt_of_succ_lt_succ hplace)

/-- A text is clear of a mark, or it is clear up to a first one. -/
theorem clear_or_first (mark s : List Char) :
    Clear mark s [] ∨ ∃ text rest, s = text ++ mark ++ rest ∧ Clear mark text (mark ++ rest) := by
  induction s with
  | nil => exact Or.inl clear_nil
  | cons c s ih =>
    by_cases hmark : mark <+: c :: s
    · obtain ⟨rest, hrest⟩ := hmark
      exact Or.inr ⟨[], rest, hrest.symm, clear_nil⟩
    · rcases ih with hclear | ⟨text, rest, rfl, hclear⟩
      · exact Or.inl (clear_cons.2 ⟨by rwa [List.append_nil], hclear⟩)
      · refine Or.inr ⟨c :: text, rest, rfl, clear_cons.2 ⟨?_, hclear⟩⟩
        rwa [← List.append_assoc]

/-- A text that does not hold a character twice running, and does not end in it, is clear of the
two, whatever stands behind it. -/
theorem clear_of_not_twice (h : ¬[c, c] <:+: text) (hlast : text.getLast? ≠ some c)
    (rest : List Char) : Clear [c, c] text rest := by
  induction text with
  | nil => exact clear_nil
  | cons first text ih =>
    cases text with
    | nil =>
      have hfirst : c ≠ first := fun heq => hlast (by rw [heq]; rfl)
      refine clear_cons.2 ⟨fun hmark => ?_, clear_nil⟩
      exact hfirst (List.cons_prefix_cons.1 hmark).1
    | cons second text =>
      refine clear_cons.2 ⟨fun hmark => ?_, ih (fun htwice => h (htwice.trans ?_)) ?_⟩
      · obtain ⟨rfl, htail⟩ := List.cons_prefix_cons.1 hmark
        obtain ⟨rfl, -⟩ := List.cons_prefix_cons.1 htail
        exact h ⟨[], text, rfl⟩
      · exact (List.suffix_cons _ _).isInfix
      · rwa [List.getLast?_cons_cons] at hlast

theorem clear_of_not_infix (h : ¬mark <:+: text) : Clear mark text [] := by
  intro place _ hmark
  rw [List.append_nil] at hmark
  exact h (hmark.isInfix.trans (List.drop_suffix place text).isInfix)

/-- Behind a whole mark it does not matter what follows. -/
theorem clear_mark_iff : Clear mark text (mark ++ rest) ↔ Clear mark text mark := by
  refine forall_congr' fun place => forall_congr' fun hplace => not_congr ?_
  rw [List.drop_append_of_le_length (Nat.le_of_lt hplace),
    List.drop_append_of_le_length (Nat.le_of_lt hplace), ← List.append_assoc]
  refine ⟨fun hmark => ?_, fun hmark => hmark.trans (List.prefix_append _ _)⟩
  exact List.prefix_of_prefix_length_le hmark (List.prefix_append _ _) (by simp)

/-- A text that is clear of a character twice running stays so before one without the character. -/
theorem clear_append (h : Clear [c, c] text []) (hrest : c ∉ rest) :
    Clear [c, c] (text ++ rest) [] := by
  induction text with
  | nil => exact clear_of_not_infix fun htwice => hrest (htwice.subset List.mem_cons_self)
  | cons first text ih =>
    obtain ⟨hfirst, htext⟩ := clear_cons.1 h
    refine clear_cons.2 ⟨fun hmark => ?_, ih htext⟩
    rw [List.append_nil] at hfirst hmark
    obtain ⟨rfl, htail⟩ := List.cons_prefix_cons.1 hmark
    cases text with
    | nil => exact hrest (htail.subset List.mem_cons_self)
    | cons second text =>
      obtain ⟨rfl, -⟩ := List.cons_prefix_cons.1 htail
      exact hfirst (by simp)

theorem cutAt?_append_cons {m : Char} {before : List Char} (h : m ∉ before) (after : List Char) :
    cutAt? m (before ++ m :: after) = some (before, after) := by
  induction before with
  | nil => simp [cutAt?]
  | cons c before ih =>
    obtain ⟨hc, hbefore⟩ := not_or.1 (mt List.mem_cons.2 h)
    rw [List.cons_append, cutAt?, if_neg (Ne.symm hc), ih hbefore]
    rfl

/-! ## Blank ends -/

/-- Trimming leaves a text alone that neither starts nor ends in a blank. -/
theorem trim_eq_self {s : List Char} (hfirst : ∀ c ∈ s.head?, isBlank c = false)
    (hlast : ∀ c ∈ s.getLast?, isBlank c = false) : trim s = s := by
  have hdrop : ∀ t : List Char, (∀ c ∈ t.head?, isBlank c = false) → t.dropWhile isBlank = t := by
    intro t ht
    cases t with
    | nil => rfl
    | cons c t => rw [List.dropWhile_cons, if_neg (by simp [ht c rfl])]
  have hreverse : ∀ c ∈ s.reverse.head?, isBlank c = false := by rwa [List.head?_reverse]
  rw [trim, trimStart, hdrop s hfirst, trimEnd, hdrop _ hreverse, List.reverse_reverse]

/-- What is left of a text without the blanks it starts with does not start with one. -/
theorem isBlank_head?_dropWhile (s : List Char) :
    ∀ c ∈ (s.dropWhile isBlank).head?, isBlank c = false := by
  intro c hc
  have hfirst := List.head?_dropWhile_not isBlank s
  rw [Option.mem_def.1 hc] at hfirst
  exact hfirst

/-- Trimming twice is trimming once. -/
theorem trim_trim (s : List Char) : trim (trim s) = trim s := by
  refine trim_eq_self (fun c hc => ?_) fun c hc => ?_
  · obtain ⟨post, hpost, -⟩ := trimEnd_eq (trimStart s)
    refine isBlank_head?_dropWhile s c ?_
    rw [Option.mem_def] at hc ⊢
    rw [← trimStart, hpost, List.head?_append, ← trim, hc]
    rfl
  · rw [trim, trimEnd, List.getLast?_reverse] at hc
    exact isBlank_head?_dropWhile _ c hc

theorem trimmed_trimmed (s : String) : trimmed (trimmed s) = trimmed s := by
  rw [trimmed, trimmed, String.toList_ofList, trim_trim]

theorem trim_between {first last : Char} (hfirst : isBlank first = false)
    (hlast : isBlank last = false) (s : List Char) :
    trim (first :: (s ++ [last])) = first :: (s ++ [last]) := by
  have hend : (first :: (s ++ [last])).getLast? = some last :=
    List.getLast?_concat (l := first :: s)
  refine trim_eq_self (fun c hc => ?_) fun c hc => ?_
  · cases hc
    exact hfirst
  · rw [hend] at hc
    cases hc
    exact hlast

theorem mem_of_mem_trim {s : List Char} (hmem : c ∈ trim s) : c ∈ s := by
  obtain ⟨pre, post, hs, -, -⟩ := trim_eq s
  rw [hs]
  exact List.mem_append_left _ (List.mem_append_right _ hmem)

theorem length_trim_le (s : List Char) : (trim s).length ≤ s.length := by
  obtain ⟨pre, post, hs, -, -⟩ := trim_eq s
  have hlength := congrArg List.length hs
  simp only [List.length_append] at hlength
  omega

/-- What is not blank and stands in a text stands also in what trimming leaves of it. -/
theorem mem_trim {s : List Char} (hmem : c ∈ s) (hblank : isBlank c = false) : c ∈ trim s := by
  obtain ⟨pre, post, hs, hpre, hpost⟩ := trim_eq s
  rw [hs, List.mem_append, List.mem_append] at hmem
  rcases hmem with (hmem | hmem) | hmem
  · rw [hpre c hmem] at hblank
    cases hblank
  · exact hmem
  · rw [hpost c hmem] at hblank
    cases hblank

end Registrar.Text
