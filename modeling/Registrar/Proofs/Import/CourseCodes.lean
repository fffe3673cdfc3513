import Mathlib.Data.List.TakeWhile
import Registrar.Import.Course
/-!
# Course codes in free text

`Matches` says which course codes a text contains without saying how they are found: the first one
starts as far to the left as any code does and is the longest that starts there, and the others are
those of the text behind it. The scan gives exactly these codes (`matches_iff`).
-/
namespace Registrar.Import

/-! ## What is a code -/

/-- A course code: two capitals or more, three digits or more, and any capitals. -/
def IsCode (code : List Char) : Prop :=
  ∃ letters digits after, code = letters ++ (digits ++ after) ∧
    2 ≤ letters.length ∧ 3 ≤ digits.length ∧
    (∀ c ∈ letters, c.isUpper) ∧ (∀ c ∈ digits, c.isDigit) ∧ ∀ c ∈ after, c.isUpper

theorem IsCode.length_pos {code : List Char} (h : IsCode code) : 0 < code.length := by
  obtain ⟨letters, digits, after, rfl, hletters, -⟩ := h
  rw [List.length_append]
  omega

theorem not_isUpper_of_isDigit {c : Char} (h : c.isDigit) : ¬c.isUpper := by
  unfold Char.isDigit at h
  unfold Char.isUpper
  simp only [Bool.and_eq_true, decide_eq_true_eq, ge_iff_le, UInt32.le_iff_toNat_le] at h ⊢
  have hdigit : '9'.val.toNat < 'A'.val.toNat := by decide
  omega

theorem not_isDigit_of_isUpper {c : Char} (h : c.isUpper) : ¬c.isDigit := fun hdigit =>
  not_isUpper_of_isDigit hdigit h

/-- The run at the start of a text ends where something else begins. -/
theorem takeWhile_run {p : Char → Bool} {run rest : List Char} (hrun : ∀ c ∈ run, p c)
    (hrest : ∀ c ∈ rest.head?, ¬p c) :
    (run ++ rest).takeWhile p = run ∧ (run ++ rest).dropWhile p = rest := by
  rw [List.takeWhile_append_of_pos hrun, List.dropWhile_append_of_pos hrun]
  cases rest with
  | nil => simp
  | cons c rest =>
    have hc : ¬p c := hrest c rfl
    simp [hc]

/-! ## A code at the start of a text -/

theorem codeAt?_eq_some {s code : List Char} (h : codeAt? s = some code) :
    IsCode code ∧ code <+: s := by
  simp only [codeAt?] at h
  split at h
  · rename_i hlengths
    cases h
    refine ⟨⟨_, _, _, List.append_assoc _ _ _, hlengths.1, hlengths.2, ?_, ?_, ?_⟩, ?_⟩
    · exact fun c hc => List.mem_takeWhile_imp hc
    · exact fun c hc => List.mem_takeWhile_imp hc
    · exact fun c hc => List.mem_takeWhile_imp hc
    · refine ⟨((s.dropWhile Char.isUpper).dropWhile Char.isDigit).dropWhile Char.isUpper, ?_⟩
      simp only [List.append_assoc, List.takeWhile_append_dropWhile]
  · cases h

/-- What digits and capitals start a text, at least as many as stand there together. -/
theorem length_digits_le {digits after : List Char} (hdigits : ∀ c ∈ digits, c.isDigit)
    (hafter : ∀ c ∈ after, c.isUpper) (rest : List Char) :
    digits.length + after.length ≤
      ((digits ++ (after ++ rest)).takeWhile Char.isDigit).length +
        (((digits ++ (after ++ rest)).dropWhile Char.isDigit).takeWhile Char.isUpper).length := by
  cases after with
  | nil =>
    rw [List.takeWhile_append_of_pos hdigits]
    simp only [List.length_append, List.length_nil]
    omega
  | cons c after =>
    have hupper : ∀ d ∈ (c :: after ++ rest).head?, ¬d.isDigit := by
      intro d hd
      cases hd
      exact not_isDigit_of_isUpper (hafter c List.mem_cons_self)
    obtain ⟨htake, hdrop⟩ := takeWhile_run hdigits hupper
    rw [htake, hdrop, List.takeWhile_append_of_pos hafter, List.length_append]
    omega

/-- Where a code starts the scan finds one, and none that starts there is longer. -/
theorem exists_codeAt?_of_isCode {s code : List Char} (hcode : IsCode code) (hs : code <+: s) :
    ∃ longest, codeAt? s = some longest ∧ code.length ≤ longest.length := by
  obtain ⟨letters, digits, after, rfl, hletters, hdigits, huppers, hnumbers, hafter⟩ := hcode
  obtain ⟨rest, rfl⟩ := hs
  have hdigit : ∀ c ∈ (digits ++ (after ++ rest)).head?, ¬c.isUpper := by
    intro c hc
    cases digits with
    | nil => simp at hdigits
    | cons d digits =>
      cases hc
      exact not_isUpper_of_isDigit (hnumbers c List.mem_cons_self)
  obtain ⟨htake, hdrop⟩ := takeWhile_run huppers hdigit
  have hmany : 3 ≤ ((digits ++ (after ++ rest)).takeWhile Char.isDigit).length := by
    rw [List.takeWhile_append_of_pos hnumbers, List.length_append]
    omega
  have hlong := length_digits_le hnumbers hafter rest
  simp only [codeAt?, List.append_assoc, htake, hdrop, hletters, hmany, and_self, if_true,
    Option.some.injEq, exists_eq_left', List.length_append]
  omega

/-! ## The codes of a text -/

/-- The leftmost code of a text and the longest that starts there, between what is before it and
what is behind it. -/
structure FirstCode (s before code rest : List Char) : Prop where
  split : s = before ++ (code ++ rest)
  isCode : IsCode code
  leftmost : ∀ gap other, IsCode other → gap ++ other <+: s → before.length ≤ gap.length
  longest : ∀ other, IsCode other → before ++ other <+: s → other.length ≤ code.length

/-- The successive codes of a text, none of which overlaps the one before. -/
inductive Matches : List Char → List (List Char) → Prop
  | none {s : List Char} (h : ∀ gap code, IsCode code → ¬gap ++ code <+: s) : Matches s []
  | next {s before code rest : List Char} {codes : List (List Char)}
      (first : FirstCode s before code rest) (others : Matches rest codes) :
      Matches s (code :: codes)

namespace Matches

/-- A text has one list of codes. -/
theorem unique {s : List Char} {codes codes' : List (List Char)} (h : Matches s codes)
    (h' : Matches s codes') : codes = codes' := by
  induction h generalizing codes' with
  | none hnone =>
    cases h' with
    | none => rfl
    | @next s before code rest _ first =>
      exact absurd ⟨rest, by simp [first.split]⟩ (hnone before code first.isCode)
  | @next s before code rest codes first _ ih =>
    cases h' with
    | none hnone => exact absurd ⟨rest, by simp [first.split]⟩ (hnone before code first.isCode)
    | @next _ before' code' rest' codes' first' others' =>
      have hstarts : before ++ code <+: s := ⟨rest, by simp [first.split]⟩
      have hstarts' : before' ++ code' <+: s := ⟨rest', by simp [first'.split]⟩
      have hlength : before.length = before'.length :=
        Nat.le_antisymm (first.leftmost before' code' first'.isCode hstarts')
          (first'.leftmost before code first.isCode hstarts)
      obtain ⟨rfl, hbehind⟩ :=
        List.append_inj (first.split.symm.trans first'.split) hlength
      have hlength' : code.length = code'.length :=
        Nat.le_antisymm (first'.longest code first.isCode hstarts)
          (first.longest code' first'.isCode hstarts')
      obtain ⟨rfl, rfl⟩ := List.append_inj hbehind hlength'
      rw [ih others']

end Matches

/-- What no code starts with only puts the first one off. -/
theorem FirstCode.cons {c : Char} {s before code rest : List Char}
    (hnone : ∀ code, IsCode code → ¬code <+: c :: s) (h : FirstCode s before code rest) :
    FirstCode (c :: s) (c :: before) code rest where
  split := by simp [h.split]
  isCode := h.isCode
  leftmost gap other hother hstarts := by
    cases gap with
    | nil => exact absurd hstarts (hnone other hother)
    | cons d gap =>
      have hleft := h.leftmost gap other hother (List.cons_prefix_cons.1 hstarts).2
      simpa using hleft
  longest other hother hstarts :=
    h.longest other hother (List.cons_prefix_cons.1 hstarts).2

theorem Matches.cons {c : Char} {s : List Char} {codes : List (List Char)}
    (hnone : ∀ code, IsCode code → ¬code <+: c :: s) (h : Matches s codes) :
    Matches (c :: s) codes := by
  cases h with
  | none h =>
    refine .none fun gap code hcode hstarts => ?_
    cases gap with
    | nil => exact hnone code hcode hstarts
    | cons d gap => exact h gap code hcode (List.cons_prefix_cons.1 hstarts).2
  | next first others => exact .next (first.cons hnone) others

/-! ## The scan -/

theorem not_isCode_of_codeAt?_eq_none {s : List Char} (h : codeAt? s = none) (code : List Char)
    (hcode : IsCode code) : ¬code <+: s := by
  intro hstarts
  obtain ⟨longest, hsome, -⟩ := exists_codeAt?_of_isCode hcode hstarts
  cases h.symm.trans hsome

theorem firstCode_of_codeAt? {s code : List Char} (h : codeAt? s = some code) :
    FirstCode s [] code (s.drop code.length) := by
  obtain ⟨hcode, hstarts⟩ := codeAt?_eq_some h
  refine ⟨(List.prefix_iff_eq_append.1 hstarts).symm, hcode, by simp, ?_⟩
  intro other hother hstarts'
  obtain ⟨longest, hsome, hle⟩ := exists_codeAt?_of_isCode hother hstarts'
  cases h.symm.trans hsome
  exact hle

theorem codesAfter_eq_drop (skip : Nat) (s : List Char) :
    codesAfter skip s = codesAfter 0 (s.drop skip) := by
  induction s generalizing skip with
  | nil => simp [codesAfter]
  | cons c rest ih =>
    cases skip with
    | zero => rfl
    | succ skip => exact ih skip

theorem matches_codesAfter (s : List Char) : Matches s (codesAfter 0 s) := by
  -- A code takes the scan past more than the next character, hence the induction on the length.
  induction hlength : s.length using Nat.strong_induction_on generalizing s with
  | _ n ih =>
    subst hlength
    cases s with
    | nil =>
      refine .none fun gap code hcode hstarts => ?_
      have hpos := hcode.length_pos
      have hnil := hstarts.length_le
      simp only [List.length_append, List.length_nil] at hnil
      omega
    | cons c rest =>
      rw [codesAfter]
      split
      · rename_i code hsome
        have hbehind := ih (rest.drop (code.length - 1)).length
          (by simp only [List.length_drop, List.length_cons]; omega) _ rfl
        have hpos := (firstCode_of_codeAt? hsome).isCode.length_pos
        have hdrop : (c :: rest).drop code.length = rest.drop (code.length - 1) := by
          rw [List.drop_cons hpos]
        rw [codesAfter_eq_drop]
        exact .next (hdrop ▸ firstCode_of_codeAt? hsome) hbehind
      · rename_i hnone
        exact (ih rest.length (by simp) rest rfl).cons (not_isCode_of_codeAt?_eq_none hnone)

/-- **The scan** of a text gives its codes. -/
theorem matches_iff {s : List Char} {codes : List (List Char)} :
    Matches s codes ↔ codes = codesAfter 0 s := by
  constructor
  · exact fun h => h.unique (matches_codesAfter s)
  · rintro rfl
    exact matches_codesAfter s

end Registrar.Import
