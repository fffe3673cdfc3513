import Registrar.Text.Cut
/-!
# Cutting what is joined

Texts that do not hold a mark are the pieces of what they become when they are joined by it
(`pieces_join`), and lines that each end in it are the pieces before an empty last one
(`pieces_flatMap`).
-/
namespace Registrar.Text

/-- What can be tested of characters holds of all of them if it does of each one by one. -/
theorem forall_mem_of_all {P : Char → Prop} [DecidablePred P] {s : List Char}
    (h : (s.all fun c => decide (P c)) = true) : ∀ c ∈ s, P c := by
  simpa using h

theorem join_cons_cons (mark s t : List Char) (rest : List (List Char)) :
    join mark (s :: t :: rest) = s ++ mark ++ join mark (t :: rest) := rfl

theorem join_eq_intercalate (mark : List Char) (texts : List (List Char)) :
    join mark texts = mark.intercalate texts := by
  induction texts with
  | nil => rfl
  | cons s texts ih =>
    cases texts with
    | nil => simp [join, List.intercalate]
    | cons t texts =>
      rw [join_cons_cons, ih]
      simp [List.intercalate, List.append_assoc]

variable {mark : Char}

theorem pieces_of_notMem {s : List Char} (h : mark ∉ s) : pieces mark s = [s] := by
  induction s with
  | nil => rfl
  | cons c s ih =>
    have hc : c ≠ mark := fun heq => h (heq ▸ List.mem_cons_self)
    unfold pieces
    rw [if_neg hc, ih fun hmem => h (List.mem_cons_of_mem _ hmem)]

theorem pieces_append_cons {s : List Char} (h : mark ∉ s) (rest : List Char) :
    pieces mark (s ++ mark :: rest) = s :: pieces mark rest := by
  induction s with
  | nil => simp [pieces]
  | cons c s ih =>
    have hc : c ≠ mark := fun heq => h (heq ▸ List.mem_cons_self)
    rw [List.cons_append, pieces, if_neg hc, ih fun hmem => h (List.mem_cons_of_mem _ hmem)]

/-- Texts between marks are the pieces, if there is at least one text. -/
theorem pieces_join {texts : List (List Char)} (hne : texts ≠ []) (h : ∀ s ∈ texts, mark ∉ s) :
    pieces mark (join [mark] texts) = texts := by
  induction texts with
  | nil => exact absurd rfl hne
  | cons s texts ih =>
    have hs := h s List.mem_cons_self
    cases texts with
    | nil => exact pieces_of_notMem hs
    | cons t texts =>
      have hrest := ih (List.cons_ne_nil _ _) fun t ht => h t (List.mem_cons_of_mem _ ht)
      rw [join_cons_cons, List.append_assoc, List.singleton_append, pieces_append_cons hs, hrest]

/-- Texts that a mark ends are the pieces before the end. -/
theorem pieces_flatMap {α : Type} {text : α → List Char} {items : List α}
    (h : ∀ item ∈ items, mark ∉ text item) :
    pieces mark (items.flatMap fun item => text item ++ [mark]) = items.map text ++ [[]] := by
  induction items with
  | nil => rfl
  | cons item items ih =>
    rw [List.flatMap_cons, List.append_assoc, List.singleton_append,
      pieces_append_cons (h item List.mem_cons_self),
      ih fun item hitem => h item (List.mem_cons_of_mem _ hitem)]
    rfl

/-- Texts that hold no mark but others are joined without it. -/
theorem notMem_join {between : List Char} {texts : List (List Char)} (hbetween : mark ∉ between)
    (h : ∀ s ∈ texts, mark ∉ s) : mark ∉ join between texts := by
  induction texts with
  | nil => simp [join]
  | cons s texts ih =>
    have hs := h s List.mem_cons_self
    cases texts with
    | nil => exact hs
    | cons t texts =>
      have hrest := ih fun t ht => h t (List.mem_cons_of_mem _ ht)
      rw [join_cons_cons, List.mem_append, List.mem_append]
      rintro ((hmem | hmem) | hmem)
      · exact hs hmem
      · exact hbetween hmem
      · exact hrest hmem

end Registrar.Text
