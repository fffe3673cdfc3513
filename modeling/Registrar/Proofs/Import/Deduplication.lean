import Mathlib.Data.List.Nodup
import Registrar.Proofs.Import.Provenance
/-!
# Records that come once

Documents may say a thing twice, records must not. Every stage sees to that in its own way: a later
correction of a professor takes the place of the earlier one, an edge between two courses is added
only once and never from a course to itself, a user has one review of a course, saves it once and
takes it once a term, and attends a section once. A user has one credential at most, so nobody's
password comes twice, and nobody has a password besides an account of another site.
-/
namespace Registrar.Import

variable {ids : IdMap}

theorem nodup_concat {α : Type} {items : List α} {item : α} (h : items.Nodup) (hnew : item ∉ items) :
    (items ++ [item]).Nodup := by
  rw [← List.concat_eq_append]
  exact h.concat hnew

/-! ## Corrections -/

/-- The professors who are corrected, before and after one more correction. -/
theorem Rename.oldCodes_add (rename : Rename) (renames : List Rename) :
    (rename.add renames).map Rename.oldCode =
      if rename.oldCode ∈ renames.map Rename.oldCode then renames.map Rename.oldCode
      else renames.map Rename.oldCode ++ [rename.oldCode] := by
  induction renames with
  | nil => rfl
  | cons other rest ih =>
    unfold Rename.add
    by_cases h : other.oldCode = rename.oldCode
    · simp [h]
    · simp only [h, if_false, List.map_cons, List.mem_cons, ih, Ne.symm h, false_or]
      split <;> simp

theorem nodup_readRenames {index : Nat} {before after : List Rename} {records : List (List String)}
    (h : readRenames index before records = .ok after) (hbefore : (before.map Rename.oldCode).Nodup) :
    (after.map Rename.oldCode).Nodup := by
  induction records generalizing index before with
  | nil =>
    cases h
    exact hbefore
  | cons record rest ih =>
    rw [readRenames] at h
    split at h
    · cases h
    · exact ih h hbefore
    · refine ih h ?_
      rw [Rename.oldCodes_add]
      split
      · exact hbefore
      · exact nodup_concat hbefore ‹_›

/-! ## Requisites -/

/-- Pairs of courses, none of them twice and none of a course with itself. -/
structure Simple (pairs : List (Int × Int)) : Prop where
  nodup : pairs.Nodup
  loopless : ∀ pair ∈ pairs, pair.1 ≠ pair.2

theorem Simple.nil : Simple [] := ⟨List.nodup_nil, by simp⟩

theorem Simple.concat {pairs : List (Int × Int)} (h : Simple pairs) {pair : Int × Int}
    (hne : pair.1 ≠ pair.2) (hnew : pair ∉ pairs) : Simple (pairs ++ [pair]) where
  nodup := nodup_concat h.nodup hnew
  loopless other hother := by
    rcases List.mem_append.1 hother with hold | hnew
    · exact h.loopless other hold
    · rwa [List.mem_singleton.1 hnew]

/-- The courses that an edge joins. -/
def Prerequisite.ends (edge : Prerequisite) : Int × Int := (edge.course, edge.prerequisite)

/-- The courses that an edge joins. -/
def Antirequisite.ends (edge : Antirequisite) : Int × Int := (edge.course, edge.antirequisite)

theorem simple_addPrerequisite {edges : List Prerequisite}
    (h : Simple (edges.map Prerequisite.ends)) (edge : Prerequisite) :
    Simple ((addPrerequisite edges edge).map Prerequisite.ends) := by
  unfold addPrerequisite
  split
  · exact h
  · rename_i hnew
    obtain ⟨hne, hnew⟩ := not_or.1 hnew
    rw [List.map_append]
    refine h.concat (Ne.symm hne) fun hmem => hnew ?_
    obtain ⟨other, hother, hends⟩ := List.mem_map.1 hmem
    rw [Prerequisite.ends, Prerequisite.ends, Prod.mk.injEq] at hends
    exact List.any_eq_true.2 ⟨other, hother, by simp [hends.1, hends.2]⟩

theorem simple_addAntirequisite {edges : List Antirequisite}
    (h : Simple (edges.map Antirequisite.ends)) (edge : Antirequisite) :
    Simple ((addAntirequisite edges edge).map Antirequisite.ends) := by
  unfold addAntirequisite
  split
  · exact h
  · rename_i hnew
    obtain ⟨hne, hnew⟩ := not_or.1 hnew
    rw [List.map_append]
    refine h.concat (Ne.symm hne) fun hmem => hnew ?_
    obtain ⟨⟨course, antirequisite⟩, hother, hends⟩ := List.mem_map.1 hmem
    rw [Antirequisite.ends, Antirequisite.ends, Prod.mk.injEq] at hends
    obtain ⟨rfl, rfl⟩ := hends
    exact hother

theorem simple_foldl {α : Type} {add : List α → α → List α} {ends : α → Int × Int}
    (hadd : ∀ {edges}, Simple (edges.map ends) → ∀ edge, Simple ((add edges edge).map ends))
    {edges : List α} (h : Simple (edges.map ends)) (news : List α) :
    Simple ((news.foldl add edges).map ends) := by
  induction news generalizing edges with
  | nil => exact h
  | cons edge rest ih => exact ih (hadd h edge)

/-- Edges between courses of which no two join the same, and none a course with itself. -/
structure SimpleEdges (edges : List Prerequisite × List Antirequisite) : Prop where
  required : Simple (edges.1.map Prerequisite.ends)
  excluded : Simple (edges.2.map Antirequisite.ends)

theorem simple_requisites {courses : List LegacyCourse}
    {before after : List Prerequisite × List Antirequisite}
    (h : requisites ids courses before = .ok after) (hbefore : SimpleEdges before) :
    SimpleEdges after := by
  induction courses generalizing before with
  | nil =>
    cases h
    exact hbefore
  | cons course rest ih =>
    obtain ⟨required, excluded⟩ := before
    rw [requisites, bind_eq_ok_iff] at h
    obtain ⟨id, -, h⟩ := h
    refine ih h ⟨?_, ?_⟩
    · exact simple_foldl simple_addPrerequisite hbefore.required _
    · exact simple_foldl simple_addAntirequisite hbefore.excluded _

/-! ## Credentials -/

/-- What is made of users and their rows comes in the order of the rows. -/
theorem sublist_owners {ρ α : Type} {make : α × Int → Option ρ} {owner : ρ → Int}
    (hmake : ∀ user record, make user = some record → owner record = user.2)
    (users : List (α × Int)) :
    ((users.filterMap make).map owner).Sublist (users.map Prod.snd) := by
  induction users with
  | nil => exact List.Sublist.refl _
  | cons user rest ih =>
    rw [List.filterMap_cons, List.map_cons]
    split
    · exact ih.cons _
    · rename_i record hrecord
      rw [List.map_cons, hmake user record hrecord]
      exact ih.cons_cons _

theorem nodup_idsAfter (lastId count : Nat) : (Memory.idsAfter lastId count).Nodup :=
  List.nodup_range.map fun i j h => by
    have hplace : lastId + i + 1 = lastId + j + 1 := Int.ofNat.inj h
    omega

/-- Users stand beside rows of their own. -/
theorem nodup_rows_zip (users : List LegacyUser) (lastId : Nat) :
    ((users.zip (Memory.idsAfter lastId users.length)).map Prod.snd).Nodup := by
  rw [List.map_snd_zip (by simp)]
  exact nodup_idsAfter lastId users.length

theorem credential_of_mem_passwordRows {users : List (LegacyUser × Int)} {row : PasswordRow}
    (h : row ∈ passwordRows users) :
    ∃ user, (user, row.user) ∈ users ∧ user.credential? = some (.password row.hash) := by
  obtain ⟨⟨user, id⟩, huser, hrow⟩ := List.mem_filterMap.1 h
  simp only at hrow
  split at hrow <;> cases hrow
  exact ⟨user, huser, ‹_›⟩

theorem credential_of_mem_facebookRows {users : List (LegacyUser × Int)} {row : FacebookRow}
    (h : row ∈ facebookRows users) :
    ∃ user, (user, row.user) ∈ users ∧ user.credential? = some (.facebook row.facebookId) := by
  obtain ⟨⟨user, id⟩, huser, hrow⟩ := List.mem_filterMap.1 h
  simp only at hrow
  split at hrow <;> cases hrow
  exact ⟨user, huser, ‹_›⟩

theorem nodup_passwordRows {users : List (LegacyUser × Int)} (h : (users.map Prod.snd).Nodup) :
    ((passwordRows users).map PasswordRow.user).Nodup := by
  refine (sublist_owners (fun user record hrecord => ?_) users).nodup h
  simp only at hrecord
  split at hrecord <;> cases hrecord
  rfl

theorem nodup_facebookRows {users : List (LegacyUser × Int)} (h : (users.map Prod.snd).Nodup) :
    ((facebookRows users).map FacebookRow.user).Nodup := by
  refine (sublist_owners (fun user record hrecord => ?_) users).nodup h
  simp only at hrecord
  split at hrecord <;> cases hrecord
  rfl

/-- A user with a password has no account of another site. -/
theorem ne_of_credentials {users : List (LegacyUser × Int)} (h : (users.map Prod.snd).Nodup)
    {password : PasswordRow} (hpassword : password ∈ passwordRows users) {account : FacebookRow}
    (haccount : account ∈ facebookRows users) : password.user ≠ account.user := by
  intro hsame
  obtain ⟨user, huser, hcredential⟩ := credential_of_mem_passwordRows hpassword
  obtain ⟨other, hother, hcredential'⟩ := credential_of_mem_facebookRows haccount
  obtain ⟨rfl, -⟩ := Prod.mk.inj (List.inj_on_of_nodup_map h huser hother hsame)
  cases hcredential.symm.trans hcredential'

/-! ## Reviews and histories -/

/-- The course and the user of a review. -/
def ReviewRow.about (row : ReviewRow) : Int × Int := (row.course, row.user)

theorem nodup_collectReviews {before after : List (String × ReviewRow)}
    {docs : List LegacyUserCourse} (h : collectReviews ids before docs = .ok after)
    (hbefore : (before.map fun review => review.2.about).Nodup) :
    (after.map fun review => review.2.about).Nodup := by
  induction docs generalizing before with
  | nil =>
    cases h
    exact hbefore
  | cons doc rest ih =>
    simp only [collectReviews, bind_eq_ok_iff] at h
    obtain ⟨course, -, user, -, h⟩ := h
    split at h
    · exact ih h hbefore
    · rename_i hnew
      refine ih h ?_
      rw [List.map_append]
      refine nodup_concat hbefore fun hmem => hnew ?_
      obtain ⟨⟨id, row⟩, hrow, habout⟩ := List.mem_map.1 hmem
      obtain ⟨hcourse, huser⟩ := Prod.mk.inj habout
      refine Bool.or_eq_true_iff.2 (Or.inr (List.any_eq_true.2 ⟨_, hrow, ?_⟩))
      simpa [LegacyUserCourse.row] using And.intro hcourse huser

/-- The course, the user and the term of a taken course. -/
def TakenRow.about (row : TakenRow) : Int × Int × Int := (row.course, row.user, row.term)

namespace History

/-- Nothing is saved twice, and nothing is taken twice in a term. -/
structure Distinct (history : History) : Prop where
  shortlist : history.shortlist.Nodup
  taken : (history.taken.map TakenRow.about).Nodup

namespace Distinct

variable {history : History}

theorem vote (h : history.Distinct) (ids : IdMap) (doc : LegacyUserCourse) :
    (history.vote ids doc).Distinct := by
  unfold History.vote
  split
  · exact ⟨h.shortlist, h.taken⟩
  · exact h

theorem save (h : history.Distinct) (course user : Int) : (history.save course user).Distinct := by
  unfold History.save
  split
  · exact h
  · exact ⟨nodup_concat h.shortlist ‹_›, h.taken⟩

theorem take (h : history.Distinct) (course user term : Int) (level : Option String) :
    (history.take course user term level).Distinct := by
  unfold History.take
  split
  · exact h
  · rename_i hnew
    refine ⟨h.shortlist, ?_⟩
    rw [List.map_append]
    refine nodup_concat h.taken fun hmem => hnew ?_
    obtain ⟨row, hrow, habout⟩ := List.mem_map.1 hmem
    simp only [TakenRow.about, Prod.mk.injEq] at habout
    exact List.any_eq_true.2 ⟨row, hrow, by simpa [and_assoc] using habout⟩

end Distinct

end History

theorem distinct_collectHistory {before after : History} {docs : List LegacyUserCourse}
    (h : collectHistory ids before docs = .ok after) (hbefore : before.Distinct) :
    after.Distinct := by
  induction docs generalizing before with
  | nil =>
    cases h
    exact hbefore
  | cons doc rest ih =>
    simp only [collectHistory, bind_eq_ok_iff] at h
    obtain ⟨course, -, user, -, h⟩ := h
    have hvoted := hbefore.vote ids doc
    split at h
    · exact ih h (hvoted.save course user)
    · rw [bind_eq_ok_iff] at h
      obtain ⟨term, -, h⟩ := h
      exact ih h (hvoted.take course user term doc.level)

/-! ## Schedules -/

theorem nodup_collectSchedule {before after : List ScheduleRow} {items : List LegacyScheduleItem}
    (h : collectSchedule ids before items = .ok after) (hbefore : before.Nodup) : after.Nodup := by
  induction items generalizing before with
  | nil =>
    cases h
    exact hbefore
  | cons item rest ih =>
    rw [collectSchedule, bind_eq_ok_iff] at h
    obtain ⟨row, -, h⟩ := h
    refine ih h ?_
    split
    · exact hbefore
    · exact nodup_concat hbefore ‹_›

end Registrar.Import
