import Registrar.Import.User
import Registrar.Keyed
import Registrar.Proofs.Text.Marks
/-!
# Names of programs that are clean

Cleaning a name leaves it alone if and only if the name `IsClean`: without blanks at its ends, without
a comma, not among the names that are known to be wrong, and not too long (`cleanProgram_eq_self_iff`).

What comes out of cleaning is not always clean. The cut at the first comma comes last, and what stood
before the comma is stored as it is: with the blanks between it and the comma, and although it may be
known to be wrong (`CutUnclean`). Every other name is clean once it has been cleaned, and all are when
they are cleaned again (`cleaned_name`).
-/
namespace Registrar.Import

/-- The names that are known to be wrong. -/
def wrongPrograms : List String := programFixes.map Prod.fst

/-- A name as it should be stored. -/
structure IsClean (name : String) : Prop where
  trimmed : Text.trimmed name = name
  noComma : ',' ∉ name.toList
  notWrong : name ∉ wrongPrograms
  short : Text.utf8Length name.toList ≤ longestProgram

instance (name : String) : Decidable (IsClean name) :=
  decidable_of_iff (Text.trimmed name = name ∧ ',' ∉ name.toList ∧ name ∉ wrongPrograms ∧
      Text.utf8Length name.toList ≤ longestProgram)
    ⟨fun ⟨h₁, h₂, h₃, h₄⟩ => ⟨h₁, h₂, h₃, h₄⟩, fun h => ⟨h.trimmed, h.noComma, h.notWrong, h.short⟩⟩

/-- What a wrong name stands for is clean. -/
theorem isClean_of_fix : ∀ fix ∈ programFixes, ∀ name ∈ fix.2, IsClean name := by
  decide +kernel

theorem lookup_programFixes {name : String} :
    programFixes.lookup name = none ↔ name ∉ wrongPrograms := by
  rw [List.lookup_eq_none_iff, wrongPrograms, List.mem_map]
  constructor
  · rintro h ⟨fix, hfix, rfl⟩
    simpa using h fix hfix
  · intro h fix hfix
    have hne : name ≠ fix.1 := fun heq => h ⟨fix, hfix, heq.symm⟩
    simpa using hne

/-- The ways in which a name is cleaned: a wrong one is replaced, another one is kept up to its first
comma, if it has one. -/
theorem cleanProgram_cases {raw name : String} (h : cleanProgram raw = some name) :
    (Text.trimmed raw, some name) ∈ programFixes ∨
    Text.trimmed raw ∉ wrongPrograms ∧
      Text.utf8Length (Text.trimmed raw).toList ≤ longestProgram ∧
      ((',' ∉ (Text.trimmed raw).toList ∧ name = Text.trimmed raw) ∨
        ∃ after, Text.splitOnce? ',' (Text.trimmed raw) = some (name, after)) := by
  simp only [cleanProgram] at h
  split at h
  · cases h
  · rename_i hshort
    split at h
    · rename_i fixed hfix
      subst h
      exact Or.inl (mem_of_lookup_eq_some hfix)
    · rename_i hunknown
      refine Or.inr ⟨lookup_programFixes.1 hunknown, Nat.le_of_not_lt hshort, ?_⟩
      split at h
      · rename_i head after hsplit
        cases h
        exact Or.inr ⟨after, hsplit⟩
      · rename_i hwhole
        cases h
        refine Or.inl ⟨?_, rfl⟩
        simpa [Text.splitOnce?, Text.cutAt?_eq_none_iff] using hwhole

theorem cleanProgram_of_isClean {name : String} (h : IsClean name) :
    cleanProgram name = some name := by
  have hwhole : Text.splitOnce? ',' name = none := by
    simpa [Text.splitOnce?, Text.cutAt?_eq_none_iff] using h.noComma
  have hunknown := lookup_programFixes.2 h.notWrong
  simp only [cleanProgram, h.trimmed, if_neg (Nat.not_lt.2 h.short), hunknown, hwhole]

/-- The head of a name is shorter than the name, and has no comma. -/
theorem of_splitOnce? {name head after : String} (h : Text.splitOnce? ',' name = some (head, after)) :
    ',' ∉ head.toList ∧ name.toList = head.toList ++ ',' :: after.toList := by
  obtain ⟨⟨before, rest⟩, hcut, hparts⟩ := Option.map_eq_some_iff.1 h
  obtain ⟨rfl, rfl⟩ := Prod.mk.inj hparts
  obtain ⟨hname, hcomma⟩ := Text.eq_of_cutAt? hcut
  simpa using And.intro hcomma hname

/-- What comes out of cleaning has no comma and is not too long. -/
theorem noComma_short_of_cleanProgram {raw name : String} (h : cleanProgram raw = some name) :
    ',' ∉ name.toList ∧ Text.utf8Length name.toList ≤ longestProgram := by
  rcases cleanProgram_cases h with hfix | ⟨-, hshort, ⟨hcomma, rfl⟩ | ⟨after, hsplit⟩⟩
  · have hclean := isClean_of_fix _ hfix name rfl
    exact ⟨hclean.noComma, hclean.short⟩
  · exact ⟨hcomma, hshort⟩
  · obtain ⟨hcomma, hname⟩ := of_splitOnce? hsplit
    rw [hname, Text.utf8Length_append] at hshort
    exact ⟨hcomma, by omega⟩

/-- **Clean names** are exactly those that cleaning leaves alone. -/
theorem cleanProgram_eq_self_iff {name : String} :
    cleanProgram name = some name ↔ IsClean name := by
  refine ⟨fun h => ?_, cleanProgram_of_isClean⟩
  rcases cleanProgram_cases h with hfix | ⟨hwrong, hshort, ⟨hcomma, hname⟩ | ⟨after, hsplit⟩⟩
  · exact isClean_of_fix _ hfix name rfl
  · rw [← hname] at hwrong hshort hcomma
    exact ⟨hname.symm, hcomma, hwrong, hshort⟩
  · -- The head of a trimmed name is shorter than the name itself.
    obtain ⟨-, htrimmed⟩ := of_splitOnce? hsplit
    have hlength := congrArg List.length htrimmed
    have hle := Text.length_trim_le name.toList
    simp only [Text.trimmed, String.toList_ofList, List.length_append, List.length_cons] at hlength
    omega

/-! ## Names that are cut -/

/-- The first comma of a name cuts off a head that is not clean: it ends in a blank or is known to be
wrong. -/
def CutUnclean (raw : String) : Prop :=
  Text.trimmed raw ∉ wrongPrograms ∧ ∃ head after,
    Text.splitOnce? ',' (Text.trimmed raw) = some (head, after) ∧
      (Text.trimmed head ≠ head ∨ head ∈ wrongPrograms)

theorem isClean_iff_not_cutUnclean {raw name : String} (h : cleanProgram raw = some name) :
    IsClean name ↔ ¬CutUnclean raw := by
  obtain ⟨hcomma, hshort⟩ := noComma_short_of_cleanProgram h
  rcases cleanProgram_cases h with hfix | ⟨hwrong, -, ⟨hwhole, rfl⟩ | ⟨after, hsplit⟩⟩
  · have hwrong : Text.trimmed raw ∈ wrongPrograms := List.mem_map_of_mem hfix
    exact iff_of_true (isClean_of_fix _ hfix name rfl) fun hcut => hcut.1 hwrong
  · refine iff_of_true ⟨Text.trimmed_trimmed raw, hwhole, hwrong, hshort⟩ ?_
    rintro ⟨-, head, after, hsplit, -⟩
    refine hwhole ?_
    rw [(of_splitOnce? hsplit).2]
    exact List.mem_append_right _ List.mem_cons_self
  · constructor
    · rintro hclean ⟨-, head, rest, hhead, hunclean⟩
      cases hsplit.symm.trans hhead
      exact hunclean.elim (fun hblank => hblank hclean.trimmed) hclean.notWrong
    · intro hcut
      refine ⟨?_, hcomma, ?_, hshort⟩
      · exact Decidable.byContradiction fun hblank =>
          hcut ⟨hwrong, name, after, hsplit, Or.inl hblank⟩
      · exact fun hname => hcut ⟨hwrong, name, after, hsplit, Or.inr hname⟩

/-- A name without a comma is clean once it has been cleaned. -/
theorem isClean_of_noComma {raw name : String} (hcomma : ',' ∉ raw.toList)
    (h : cleanProgram raw = some name) : IsClean name := by
  refine (isClean_iff_not_cutUnclean h).2 ?_
  rintro ⟨-, head, after, hsplit, -⟩
  have hmem : ',' ∈ (Text.trimmed raw).toList := by
    rw [(of_splitOnce? hsplit).2]
    exact List.mem_append_right _ List.mem_cons_self
  rw [Text.trimmed, String.toList_ofList] at hmem
  exact hcomma (Text.mem_of_mem_trim hmem)

/-- **Cleaning once** leaves a name that has no comma. Cleaning it again leaves it alone exactly if its
first comma did not cut off an unclean head, and what cleaning twice leaves is clean for good. -/
theorem cleaned_name {raw name : String} (h : cleanProgram raw = some name) :
    ',' ∉ name.toList ∧
    (cleanProgram name = some name ↔ Text.trimmed name = name ∧ name ∉ wrongPrograms) ∧
    (cleanProgram name = some name ↔ ¬CutUnclean raw) ∧
    ∀ again, cleanProgram name = some again → cleanProgram again = some again := by
  obtain ⟨hcomma, hshort⟩ := noComma_short_of_cleanProgram h
  refine ⟨hcomma, ?_, cleanProgram_eq_self_iff.trans (isClean_iff_not_cutUnclean h), ?_⟩
  · rw [cleanProgram_eq_self_iff]
    exact ⟨fun hclean => ⟨hclean.trimmed, hclean.notWrong⟩,
      fun hclean => ⟨hclean.1, hcomma, hclean.2, hshort⟩⟩
  · exact fun again hagain => cleanProgram_of_isClean (isClean_of_noComma hcomma hagain)

/-- A wrong name in front of a blank and a comma. -/
theorem cleaned_name_of_honours :
    let raw := " ComputerScience , Honours"
    let name := "ComputerScience "
    cleanProgram raw = some name ∧ CutUnclean raw ∧ cleanProgram name ≠ some name ∧
      cleanProgram name = some "Computer Science" ∧
      cleanProgram "Computer Science" = some "Computer Science" := by
  intro raw name
  have hclean : cleanProgram raw = some name := by decide +kernel
  have hagain : cleanProgram name = some "Computer Science" := by decide +kernel
  have hne : cleanProgram name ≠ some name := by decide +kernel
  obtain ⟨-, -, hcut, hlast⟩ := cleaned_name hclean
  exact ⟨hclean, Classical.not_not.1 (mt hcut.2 hne), hne, hagain, hlast _ hagain⟩

/-- Blanks before the comma are stored, and so is a name that is known to be wrong. -/
theorem cut_names_are_not_clean :
    cleanProgram "Arts , Honours" = some "Arts " ∧ cleanProgram "Arts " = some "Arts" ∧
    cleanProgram "Level:, 1A" = some "Level:" ∧ cleanProgram "Level:" = none ∧
    ¬∀ raw name, cleanProgram raw = some name → cleanProgram name = some name := by
  have hblank : cleanProgram "Arts , Honours" = some "Arts " := by decide +kernel
  have hagain : cleanProgram "Arts " = some "Arts" := by decide +kernel
  refine ⟨hblank, hagain, by decide +kernel, by decide +kernel, fun h => ?_⟩
  exact absurd (hagain.symm.trans (h _ _ hblank)) (by decide)

end Registrar.Import
