import Registrar.Proofs.Import.Consistency
/-!
# Whom a professor's legacy id leads to

Professors with the same corrected code become one row, a *group*. A group claims its own code and
the legacy id of everybody in it, and the first group to claim an id keeps it. Codes of groups are
distinct, so at most two groups claim the id of a professor: the group of the professor's corrected
code, and one whose code is that very id. Hence a professor leads to the row of the corrected code,
unless an earlier row has the legacy id as its code (`resolved_of_stages`); that happens where
codes are passed on from one professor to another (`exchanged_share_a_row`).
-/
namespace Registrar.Import

open Memory (Row State Tables Yields idsAfter)

/-- The code of a professor after correction; nothing for one that is deleted. -/
def IdMap.codeOf? (ids : IdMap) (id : String) : Option String :=
  match ids.rename? id with
  | some rename => if rename.delete then none else some rename.newCode
  | none => some id

theorem LegacyProf.code_corrected? (ids : IdMap) (prof : LegacyProf) :
    (prof.corrected? ids).map Prod.fst = ids.codeOf? prof.id := by
  unfold LegacyProf.corrected? IdMap.codeOf?
  cases ids.rename? prof.id with
  | none => rfl
  | some rename => cases h : rename.delete <;> simp [h]

/-! ## Groups -/

/-- One more professor changes nothing of the groups but the legacy ids of one that is there, or adds
a group. -/
theorem map_addProf {α : Type} {f : ProfGroup → α}
    (hf : ∀ group legacyIds, f { group with legacyIds } = f group) (id code name : String)
    (groups : List ProfGroup) :
    (addProf id code name groups).map f =
      if code ∈ groups.map ProfGroup.code then groups.map f
      else groups.map f ++ [f ⟨code, name, [code, id]⟩] := by
  induction groups with
  | nil => rfl
  | cons group rest ih =>
    unfold addProf
    by_cases h : group.code = code
    · rw [if_pos h, List.map_cons, List.map_cons, hf, if_pos (by simp [h]), List.map_cons]
    · simp only [h, if_false, List.map_cons, List.mem_cons, ih, Ne.symm h, false_or]
      split <;> simp

/-- The code of every group, before and after one more professor. -/
theorem codes_addProf (id code name : String) (groups : List ProfGroup) :
    (addProf id code name groups).map ProfGroup.code =
      if code ∈ groups.map ProfGroup.code then groups.map ProfGroup.code
      else groups.map ProfGroup.code ++ [code] :=
  map_addProf (fun _ _ => rfl) id code name groups

/-- A group with one more professor is an old group with another code, or it has the code of the
professor and claims the professor's id besides what it claimed. -/
theorem mem_addProf {id code name : String} {groups : List ProfGroup}
    (hnodup : (groups.map ProfGroup.code).Nodup) {group : ProfGroup}
    (h : group ∈ addProf id code name groups) :
    (group ∈ groups ∧ group.code ≠ code) ∨
    (group.code = code ∧ (group.legacyIds = [code, id] ∧ code ∉ groups.map ProfGroup.code ∨
      ∃ old ∈ groups, old.code = code ∧ group.legacyIds = old.legacyIds ++ [id])) := by
  induction groups with
  | nil =>
    obtain rfl := List.mem_singleton.1 h
    exact Or.inr ⟨rfl, Or.inl ⟨rfl, by simp⟩⟩
  | cons first rest ih =>
    obtain ⟨hfirst, hnodup⟩ := List.nodup_cons.1 hnodup
    unfold addProf at h
    by_cases hcode : first.code = code
    · rw [if_pos hcode] at h
      rcases List.mem_cons.1 h with rfl | hrest
      · exact Or.inr ⟨hcode, Or.inr ⟨first, List.mem_cons_self, hcode, rfl⟩⟩
      · refine Or.inl ⟨List.mem_cons_of_mem _ hrest, fun heq => hfirst ?_⟩
        rw [hcode, ← heq]
        exact List.mem_map_of_mem hrest
    · rw [if_neg hcode] at h
      rcases List.mem_cons.1 h with rfl | hrest
      · exact Or.inl ⟨List.mem_cons_self, hcode⟩
      · rcases ih hnodup hrest with ⟨hold, hne⟩ | ⟨heq, ⟨hids, hnew⟩ | ⟨old, hold, hrest⟩⟩
        · exact Or.inl ⟨List.mem_cons_of_mem _ hold, hne⟩
        · refine Or.inr ⟨heq, Or.inl ⟨hids, ?_⟩⟩
          simp only [List.map_cons, List.mem_cons, not_or]
          exact ⟨Ne.symm hcode, hnew⟩
        · exact Or.inr ⟨heq, Or.inr ⟨old, List.mem_cons_of_mem _ hold, hrest⟩⟩

/-- The groups of some professors: one for each corrected code, which claims its code and the legacy
ids of the professors with that code. -/
structure Grouped (ids : IdMap) (profs : List LegacyProf) (groups : List ProfGroup) : Prop where
  nodup : (groups.map ProfGroup.code).Nodup
  covers : ∀ prof ∈ profs, ∀ code, ids.codeOf? prof.id = some code →
    code ∈ groups.map ProfGroup.code
  claims : ∀ group ∈ groups, ∀ id, id ∈ group.legacyIds ↔
    id = group.code ∨ ∃ prof ∈ profs, prof.id = id ∧ ids.codeOf? prof.id = some group.code

namespace Grouped

variable {ids : IdMap} {profs : List LegacyProf} {groups : List ProfGroup}

/-- A professor that is deleted changes nothing. -/
theorem skip (h : Grouped ids profs groups) {prof : LegacyProf} (hcode : ids.codeOf? prof.id = none) :
    Grouped ids (profs ++ [prof]) groups where
  nodup := h.nodup
  covers other hother code hother' := by
    rcases List.mem_append.1 hother with hold | hnew
    · exact h.covers other hold code hother'
    · obtain rfl := List.mem_singleton.1 hnew
      cases hcode.symm.trans hother'
  claims group hgroup id := by
    rw [h.claims group hgroup id]
    refine or_congr_right ⟨?_, ?_⟩
    · rintro ⟨other, hother, hid⟩
      exact ⟨other, List.mem_append_left _ hother, hid⟩
    · rintro ⟨other, hother, hid, hother'⟩
      rcases List.mem_append.1 hother with hold | hnew
      · exact ⟨other, hold, hid, hother'⟩
      · obtain rfl := List.mem_singleton.1 hnew
        cases hcode.symm.trans hother'

/-- One more professor. -/
theorem add (h : Grouped ids profs groups) {prof : LegacyProf} {code : String} (name : String)
    (hcode : ids.codeOf? prof.id = some code) :
    Grouped ids (profs ++ [prof]) (addProf prof.id code name groups) where
  nodup := by
    rw [codes_addProf]
    split
    · exact h.nodup
    · rename_i hnew
      exact List.nodup_append.2 ⟨h.nodup, by simp, by
        intro other hother _ hmem heq
        obtain rfl := List.mem_singleton.1 hmem
        exact hnew (heq ▸ hother)⟩
  covers other hother code' hcode' := by
    rw [codes_addProf]
    rcases List.mem_append.1 hother with hold | hnew
    · have hmem := h.covers other hold code' hcode'
      split
      · exact hmem
      · exact List.mem_append_left _ hmem
    · obtain rfl := List.mem_singleton.1 hnew
      cases hcode.symm.trans hcode'
      split
      · assumption
      · simp
  claims group hgroup id := by
    have hsplit : (∃ other ∈ profs ++ [prof], other.id = id ∧
          ids.codeOf? other.id = some group.code) ↔
        (∃ other ∈ profs, other.id = id ∧ ids.codeOf? other.id = some group.code) ∨
          (prof.id = id ∧ code = group.code) := by
      constructor
      · rintro ⟨other, hother, hid, hother'⟩
        rcases List.mem_append.1 hother with hold | hnew
        · exact Or.inl ⟨other, hold, hid, hother'⟩
        · obtain rfl := List.mem_singleton.1 hnew
          exact Or.inr ⟨hid, Option.some.inj (hcode.symm.trans hother')⟩
      · rintro (⟨other, hother, hid⟩ | ⟨hid, rfl⟩)
        · exact ⟨other, List.mem_append_left _ hother, hid⟩
        · exact ⟨prof, by simp, hid, hcode⟩
    rw [hsplit]
    rcases mem_addProf h.nodup hgroup with ⟨hold, hne⟩ | ⟨rfl, ⟨hids, hnew⟩ | ⟨old, hold, heq, hids⟩⟩
    · rw [h.claims group hold id]
      have hother : ¬(prof.id = id ∧ code = group.code) := fun hboth => hne hboth.2.symm
      rw [or_iff_left hother]
    · -- nobody had the code before
      have hnone : ¬∃ other ∈ profs, other.id = id ∧ ids.codeOf? other.id = some group.code := by
        rintro ⟨other, hother, -, hother'⟩
        exact hnew (h.covers other hother _ hother')
      rw [hids, or_iff_right hnone]
      simp [eq_comm]
    · have hclaims := h.claims old hold id
      rw [heq] at hclaims
      rw [hids, List.mem_append, hclaims, List.mem_singleton, or_assoc]
      simp [eq_comm]

end Grouped

/-- The groups with one more professor, who changes nothing if deleted. -/
def regroup (ids : IdMap) (groups : List ProfGroup) (prof : LegacyProf) : List ProfGroup :=
  match prof.corrected? ids with
  | some (code, name) => addProf prof.id code name groups
  | none => groups

theorem groupProfs_eq (ids : IdMap) (profs : List LegacyProf) :
    groupProfs ids profs = profs.foldl (regroup ids) [] := rfl

theorem Grouped.step {ids : IdMap} {profs : List LegacyProf} {groups : List ProfGroup}
    (h : Grouped ids profs groups) (prof : LegacyProf) :
    Grouped ids (profs ++ [prof]) (regroup ids groups prof) := by
  have hcode := prof.code_corrected? ids
  unfold regroup
  cases hcorrected : prof.corrected? ids with
  | none =>
    rw [hcorrected] at hcode
    exact h.skip hcode.symm
  | some corrected =>
    rw [hcorrected] at hcode
    exact h.add corrected.2 hcode.symm

theorem Grouped.run {ids : IdMap} {profs : List LegacyProf} {groups : List ProfGroup}
    (h : Grouped ids profs groups) (rest : List LegacyProf) :
    Grouped ids (profs ++ rest) (rest.foldl (regroup ids) groups) := by
  induction rest generalizing profs groups with
  | nil => simpa using h
  | cons prof rest ih =>
    have hrest := ih (h.step prof)
    rwa [List.append_assoc, List.singleton_append] at hrest

/-- **`groupProfs`** makes one group for each corrected code. -/
theorem grouped_groupProfs (ids : IdMap) (profs : List LegacyProf) :
    Grouped ids profs (groupProfs ids profs) := by
  have hempty : Grouped ids [] [] := ⟨by simp, by simp, by simp⟩
  rw [groupProfs_eq]
  exact hempty.run profs

/-! ## Claims -/

namespace IdMap

theorem get?_registered_prof (ids : IdMap) (name other : String) (row : Int) :
    (ids.registered .prof [(.key name, row)]).get? .prof (.key other) =
      (ids.get? .prof (.key other)).or (if other = name then some row else none) := by
  simp only [get?, registered, List.map_cons, List.map_nil, List.lookup_append, List.lookup_cons,
    List.lookup_nil]
  by_cases h : other = name
  · simp [h]
  · have hbeq : ((Entity.prof, LegacyId.key other) == (.prof, .key name)) = false := by simp [h]
    simp [hbeq, h]

/-- Whoever has no row gets the row that claims the id. -/
theorem get?_claim (row : Int) (names : List String) (ids : IdMap) (id : String) :
    (ids.claim row names).get? .prof (.key id) =
      (ids.get? .prof (.key id)).or (if id ∈ names then some row else none) := by
  induction names generalizing ids with
  | nil => simp [claim]
  | cons name rest ih =>
    rw [claim, ih]
    by_cases hid : id = name
    · subst hid
      cases hget : ids.get? .prof (.key id) with
      | none => simp [get?_registered_prof, hget]
      | some old => simp [hget]
    · have hsame : (if (ids.get? .prof (.key name)).isNone then
          ids.registered .prof [(.key name, row)] else ids).get? .prof (.key id) =
          ids.get? .prof (.key id) := by
        split
        · simp [get?_registered_prof, hid]
        · rfl
      rw [hsame]
      simp [hid]

/-- The first group to claim an id keeps it. -/
theorem get?_claimGroups (groups : List (ProfGroup × Int)) (ids : IdMap) (id : String) :
    (ids.claimGroups groups).get? .prof (.key id) =
      (ids.get? .prof (.key id)).or
        ((groups.find? fun group => id ∈ group.1.legacyIds).map Prod.snd) := by
  induction groups generalizing ids with
  | nil => simp [claimGroups]
  | cons group rest ih =>
    have hstep : ids.claimGroups (group :: rest) =
        (ids.claim group.2 group.1.legacyIds).claimGroups rest := rfl
    rw [hstep, ih, get?_claim, List.find?_cons]
    by_cases hid : id ∈ group.1.legacyIds
    · cases ids.get? .prof (.key id) <;> simp [hid]
    · simp [hid]

end IdMap

/-! ## Rows -/

/-- One of the rows has a code and an id. -/
def HasCode (rows : List Row) (code : String) (id : Int) : Prop :=
  ∃ row ∈ rows, row.lookup "code" = some (.text code) ∧ row.lookup "id" = some (.bigint id)

instance (rows : List Row) (code : String) (id : Int) : Decidable (HasCode rows code id) :=
  inferInstanceAs (Decidable (∃ row ∈ rows, row.lookup "code" = some (.text code) ∧
    row.lookup "id" = some (.bigint id)))

/-- An earlier row than the one with `code` has the legacy id as its code. -/
def Taken (rows : List Row) (id code : String) : Prop :=
  ∃ earlier later, HasCode rows id earlier ∧ HasCode rows code later ∧ earlier < later

/-- The rows that groups become, in a table with `lastId` ids given out. -/
def groupRows (lastId : Nat) (groups : List ProfGroup) : List Row :=
  Memory.numbered lastId (profLayout.entries groups)

/-- A group stands at the place of its row. -/
theorem hasCode_iff {groups : List ProfGroup} {lastId : Nat} {code : String} {id : Int} :
    HasCode (groupRows lastId groups) code id ↔
      ∃ (i : Nat) (group : ProfGroup), groups[i]? = some group ∧ group.code = code ∧
        id = ((lastId + i + 1 : Nat) : Int) := by
  have hcode : ∀ (group : ProfGroup) (n : Nat),
      (Memory.row profLayout.columns (profLayout.values group) n).lookup "code" =
        some (.text group.code) :=
    fun group n => Memory.lookup_row profLayout_wellShaped.distinct (by rfl) n
  have hid : ∀ (group : ProfGroup) (n : Nat),
      (Memory.row profLayout.columns (profLayout.values group) n).lookup "id" =
        some (.bigint n) :=
    fun group n => Memory.lookup_id_row profLayout_wellShaped.withoutId _ n
  constructor
  · rintro ⟨row, hrow, hrowCode, hrowId⟩
    obtain ⟨i, hi⟩ := List.mem_iff_getElem?.1 hrow
    rw [groupRows, Memory.getElem?_numbered_entries] at hi
    obtain ⟨group, hgroup, rfl⟩ := Option.map_eq_some_iff.1 hi
    rw [hcode] at hrowCode
    rw [hid] at hrowId
    cases hrowCode
    cases hrowId
    exact ⟨i, group, hgroup, rfl, rfl⟩
  · rintro ⟨i, group, hgroup, rfl, rfl⟩
    refine ⟨_, List.mem_of_getElem? (i := i) ?_, hcode group _, hid group _⟩
    rw [groupRows, Memory.getElem?_numbered_entries, hgroup]
    rfl

theorem code_unique_of_row {groups : List ProfGroup} {lastId : Nat} {code code' : String} {row : Int}
    (hrow : HasCode (groupRows lastId groups) code row)
    (hrow' : HasCode (groupRows lastId groups) code' row) : code = code' := by
  obtain ⟨i, group, hi, rfl, rfl⟩ := hasCode_iff.1 hrow
  obtain ⟨j, other, hj, rfl, hid⟩ := hasCode_iff.1 hrow'
  obtain rfl : i = j := by omega
  cases hi.symm.trans hj
  rfl

/-- A code stands at one place only. -/
theorem Grouped.place_unique {ids : IdMap} {profs : List LegacyProf} {groups : List ProfGroup}
    (h : Grouped ids profs groups) {i j : Nat} {group other : ProfGroup}
    (hi : groups[i]? = some group) (hj : groups[j]? = some other) (hcode : group.code = other.code) :
    i = j := by
  have hlt : i < (groups.map ProfGroup.code).length := by
    obtain ⟨hlt, -⟩ := List.getElem?_eq_some_iff.1 hi
    simpa using hlt
  refine (List.getElem?_inj hlt h.nodup).1 ?_
  simp [hi, hj, hcode]

/-- Where the legacy ids of professors lead, given the rows that they became. A row has a code of its
own. A professor leads to the row of the corrected code, unless an earlier row has taken the legacy
id: then to that row. -/
structure Resolved (ids ids' : IdMap) (profs : List LegacyProf) (rows : List Row) : Prop where
  row_unique : ∀ code row row', HasCode rows code row → HasCode rows code row' → row = row'
  code_unique : ∀ code code' row, HasCode rows code row → HasCode rows code' row → code = code'
  own : ∀ prof ∈ profs, ∀ code, ids.codeOf? prof.id = some code → ¬Taken rows prof.id code →
    ∃ row, HasCode rows code row ∧ ids'.get? .prof (.key prof.id) = some row
  taken : ∀ prof ∈ profs, ∀ code, ids.codeOf? prof.id = some code → Taken rows prof.id code →
    ∃ row, HasCode rows prof.id row ∧ ids'.get? .prof (.key prof.id) = some row
  same : ∀ p ∈ profs, ∀ q ∈ profs, ∀ code code', ids.codeOf? p.id = some code →
    ids.codeOf? q.id = some code' → ¬Taken rows p.id code → ¬Taken rows q.id code' →
    (ids'.get? .prof (.key p.id) = ids'.get? .prof (.key q.id) ↔ code = code')

/-! ## Who comes first -/

/-- The rows of groups, beside the groups. -/
theorem getElem?_zip_idsAfter {groups : List ProfGroup} (lastId : Nat) {i : Nat} {group : ProfGroup}
    (h : groups[i]? = some group) :
    (groups.zip (idsAfter lastId groups.length))[i]? =
      some (group, ((lastId + i + 1 : Nat) : Int)) := by
  obtain ⟨hlt, -⟩ := List.getElem?_eq_some_iff.1 h
  rw [List.getElem?_zip_eq_some]
  refine ⟨h, ?_⟩
  simp [idsAfter, hlt]

/-- The row of the first group with a property. -/
theorem find?_zip_idsAfter (p : ProfGroup → Bool) (groups : List ProfGroup) (lastId : Nat)
    (row : Int) :
    ((groups.zip (idsAfter lastId groups.length)).find? fun pair => p pair.1).map Prod.snd =
        some row ↔
      ∃ (i : Nat) (group : ProfGroup), groups[i]? = some group ∧ p group ∧
        row = ((lastId + i + 1 : Nat) : Int) ∧
        ∀ (j : Nat) (other : ProfGroup), groups[j]? = some other → p other → i ≤ j := by
  rw [Option.map_eq_some_iff]
  constructor
  · rintro ⟨pair, hpair, rfl⟩
    obtain ⟨hp, i, hlt, hi, hbefore⟩ := List.find?_eq_some_iff_getElem.1 hpair
    have hi' : (groups.zip (idsAfter lastId groups.length))[i]? = some pair := by
      rw [List.getElem?_eq_getElem hlt, hi]
    obtain ⟨hgroup, hrow⟩ := List.getElem?_zip_eq_some.1 hi'
    refine ⟨i, pair.1, hgroup, hp, Memory.eq_of_getElem?_idsAfter hrow, fun j other hj hother => ?_⟩
    by_contra hless
    obtain ⟨_, hjeq⟩ := List.getElem?_eq_some_iff.1 (getElem?_zip_idsAfter lastId hj)
    have hnot := hbefore j (by omega)
    rw [hjeq] at hnot
    simp [hother] at hnot
  · rintro ⟨i, group, hi, hp, rfl, hfirst⟩
    obtain ⟨hlt, hieq⟩ := List.getElem?_eq_some_iff.1 (getElem?_zip_idsAfter lastId hi)
    refine ⟨_, List.find?_eq_some_iff_getElem.2 ⟨hp, i, hlt, hieq, fun j hj => ?_⟩, rfl⟩
    have hjlt : j < groups.length := by
      have := (List.getElem?_eq_some_iff.1 hi).1
      omega
    rw [Bool.not_eq_true', Bool.eq_false_iff]
    intro hother
    rw [List.getElem_zip] at hother
    have := hfirst j groups[j] (List.getElem?_eq_getElem hjlt) hother
    omega

namespace Grouped

variable {ids : IdMap} {profs : List LegacyProf} {groups : List ProfGroup} {lastId : Nat}
  {prof : LegacyProf} {code : String}

theorem row_unique (h : Grouped ids profs groups) {row row' : Int}
    (hrow : HasCode (groupRows lastId groups) code row)
    (hrow' : HasCode (groupRows lastId groups) code row') : row = row' := by
  obtain ⟨i, group, hi, hgroup, rfl⟩ := hasCode_iff.1 hrow
  obtain ⟨j, other, hj, hother, rfl⟩ := hasCode_iff.1 hrow'
  rw [h.place_unique hi hj (hgroup.trans hother.symm)]

/-- The group of the corrected code claims the id of a professor. -/
theorem exists_own (h : Grouped ids profs groups) (hprof : prof ∈ profs)
    (hcode : ids.codeOf? prof.id = some code) :
    ∃ (k : Nat) (own : ProfGroup), groups[k]? = some own ∧ own.code = code ∧
      prof.id ∈ own.legacyIds := by
  obtain ⟨own, hown, hownCode⟩ := List.mem_map.1 (h.covers prof hprof code hcode)
  obtain ⟨k, hk⟩ := List.mem_iff_getElem?.1 hown
  exact ⟨k, own, hk, hownCode,
    (h.claims own hown prof.id).2 (Or.inr ⟨prof, hprof, rfl, by rw [hownCode, hcode]⟩)⟩

/-- Nobody but the group of the corrected code and that of the id itself claims the id. -/
theorem code_of_claim (h : Grouped ids profs groups) (hcode : ids.codeOf? prof.id = some code)
    {group : ProfGroup} (hgroup : group ∈ groups) (hclaim : prof.id ∈ group.legacyIds) :
    group.code = code ∨ group.code = prof.id := by
  rcases (h.claims group hgroup prof.id).1 hclaim with heq | ⟨other, -, hid, hother⟩
  · exact Or.inr heq.symm
  · rw [hid, hcode] at hother
    exact Or.inl (Option.some.inj hother).symm

/-- A professor leads to the row of the first group that claims the legacy id. -/
theorem exists_first (h : Grouped ids profs groups)
    (hnone : ∀ id, ids.get? .prof (.key id) = none) (hprof : prof ∈ profs)
    (hcode : ids.codeOf? prof.id = some code) :
    ∃ (i : Nat) (group : ProfGroup), groups[i]? = some group ∧
      (ids.claimGroups (groups.zip (idsAfter lastId groups.length))).get? .prof (.key prof.id) =
        some ((lastId + i + 1 : Nat) : Int) ∧
      (∀ j other, groups[j]? = some other → prof.id ∈ other.legacyIds → i ≤ j) ∧
      (group.code = code ∨ group.code = prof.id) := by
  obtain ⟨k, own, hk, -, hclaims⟩ := h.exists_own hprof hcode
  -- somebody claims the id, so there is a first one who does
  have hsome : ((groups.zip (idsAfter lastId groups.length)).find?
      (fun pair => prof.id ∈ pair.1.legacyIds)).isSome := by
    rw [List.find?_isSome]
    exact ⟨_, List.mem_of_getElem? (getElem?_zip_idsAfter lastId hk), by simpa using hclaims⟩
  obtain ⟨pair, hpair⟩ := Option.isSome_iff_exists.1 hsome
  obtain ⟨i, group, hgroup, hclaim, hrow, hfirst⟩ :=
    (find?_zip_idsAfter (fun group => decide (prof.id ∈ group.legacyIds)) groups lastId pair.2).1
      (by rw [hpair]; rfl)
  refine ⟨i, group, hgroup, ?_, fun j other hj hother => hfirst j other hj (by simpa using hother), ?_⟩
  · rw [IdMap.get?_claimGroups, hnone, hpair, ← hrow]
    rfl
  · exact h.code_of_claim hcode (List.mem_of_getElem? hgroup) (by simpa using hclaim)

/-- A professor whose id is not taken leads to the row of the corrected code. -/
theorem exists_row_of_free (h : Grouped ids profs groups)
    (hnone : ∀ id, ids.get? .prof (.key id) = none) (hprof : prof ∈ profs)
    (hcode : ids.codeOf? prof.id = some code)
    (hfree : ¬Taken (groupRows lastId groups) prof.id code) :
    ∃ row, HasCode (groupRows lastId groups) code row ∧
      (ids.claimGroups (groups.zip (idsAfter lastId groups.length))).get? .prof (.key prof.id) =
        some row := by
  obtain ⟨i, group, hi, hrow, hfirst, hgroup⟩ := h.exists_first hnone hprof hcode
  refine ⟨_, hasCode_iff.2 ⟨i, group, hi, ?_, rfl⟩, hrow⟩
  rcases hgroup with hgroup | hgroup
  · exact hgroup
  · -- the group of the corrected code claims the id too, so it is not before this one
    obtain ⟨k, own, hk, hown, hclaims⟩ := h.exists_own hprof hcode
    rcases Nat.lt_or_eq_of_le (hfirst k own hk hclaims) with hlt | rfl
    · refine absurd ⟨_, _, hasCode_iff.2 ⟨i, group, hi, hgroup, rfl⟩,
        hasCode_iff.2 ⟨k, own, hk, hown, rfl⟩, ?_⟩ hfree
      omega
    · cases hi.symm.trans hk
      exact hown

/-- A professor whose id is taken leads to the row that has taken it. -/
theorem exists_row_of_taken (h : Grouped ids profs groups)
    (hnone : ∀ id, ids.get? .prof (.key id) = none) (hprof : prof ∈ profs)
    (hcode : ids.codeOf? prof.id = some code)
    (htaken : Taken (groupRows lastId groups) prof.id code) :
    ∃ row, HasCode (groupRows lastId groups) prof.id row ∧
      (ids.claimGroups (groups.zip (idsAfter lastId groups.length))).get? .prof (.key prof.id) =
        some row := by
  obtain ⟨i, group, hi, hrow, hfirst, hgroup⟩ := h.exists_first hnone hprof hcode
  obtain ⟨earlier, later, hearlier, hlater, hlt⟩ := htaken
  obtain ⟨j, other, hj, hother, rfl⟩ := hasCode_iff.1 hearlier
  obtain ⟨k, own, hk, hown, rfl⟩ := hasCode_iff.1 hlater
  have hle := hfirst j other hj
    ((h.claims other (List.mem_of_getElem? hj) prof.id).2 (Or.inl hother.symm))
  refine ⟨_, hasCode_iff.2 ⟨i, group, hi, ?_, rfl⟩, hrow⟩
  rcases hgroup with hgroup | hgroup
  · -- the group of the corrected code comes after one that claims the id
    have hik := h.place_unique hi hk (hgroup.trans hown.symm)
    omega
  · exact hgroup

/-- **The first claim** decides where a professor leads. -/
theorem resolved (h : Grouped ids profs groups) (hnone : ∀ id, ids.get? .prof (.key id) = none) :
    Resolved ids (ids.claimGroups (groups.zip (idsAfter lastId groups.length))) profs
      (groupRows lastId groups) where
  row_unique _ _ _ := h.row_unique
  code_unique _ _ _ := code_unique_of_row
  own _ hprof _ := h.exists_row_of_free hnone hprof
  taken _ hprof _ := h.exists_row_of_taken hnone hprof
  same p hp q hq code code' hcode hcode' hfree hfree' := by
    obtain ⟨row, hrow, hget⟩ := h.exists_row_of_free hnone hp hcode hfree
    obtain ⟨row', hrow', hget'⟩ := h.exists_row_of_free hnone hq hcode' hfree'
    rw [hget, hget']
    constructor
    · intro heq
      cases heq
      exact code_unique_of_row hrow hrow'
    · rintro rfl
      rw [h.row_unique hrow hrow']

end Grouped

/-! ## Both stages -/

/-- **Professors lead to their rows** once both stages have succeeded from an empty map: each one to
the row of the corrected code, or to an earlier row that has taken the legacy id. -/
theorem resolved_of_stages {now now' : Time.Instant} {mode mode' : Warehouse.Mode}
    {sources : Sources} {start between before after : State} {renamed report : Report}
    {ids ids' : IdMap}
    (hrenames : (Memory.warehouse now).transact mode (importRenames sources) {} start =
      (.ok renamed, ids, between))
    (hprofs : (Memory.warehouse now').transact mode' (importProfs sources) ids before =
      (.ok report, ids', after)) :
    ∃ records renames profs rows,
      sources.legacy.records renameFile = .ok records ∧
      readRenames 0 [] records = .ok renames ∧ ids = { renames } ∧
      Legacy.load sources.legacy profCollection LegacyProf.decoder = .ok profs ∧
      (after.table "prof").rows = (before.table "prof").rows ++ rows ∧
      Resolved ids ids' profs rows := by
  obtain ⟨tx, hyields, -⟩ := Memory.yields_of_transact now hrenames
  obtain ⟨records, hrecords, renames, hread, -, -, hids, -⟩ := (yields_importRenames now).1 hyields
  obtain ⟨tx', hyields', htables⟩ := Memory.yields_of_transact now' hprofs
  obtain ⟨profs, hload, -, -, rfl, rfl⟩ := (yields_importProfs now').1 hyields'
  have hnone : ∀ id, ids.get? .prof (.key id) = none := by
    subst hids
    exact fun id => rfl
  refine ⟨records, renames, profs, _, hrecords, hread, hids, hload, ?_,
    (grouped_groupProfs ids profs).resolved hnone⟩
  rw [htables, Memory.table_store_toRows]
  rfl

/-- Some professors and their corrections. -/
def professors (ids : List String) (corrections : List (List String)) : Sources where
  legacy := Legacy.Store.ofData
    [(profCollection, ids.map fun id => .object [("_id", .text id)])] [(renameFile, corrections)]
  batchSize := 1
  secret _ := "code"

/-- A professor joins another one, a third one gets a code that a fourth one gives up, and a fifth one
is deleted. -/
def reshuffled : Sources :=
  professors ["lovelace", "ada", "x", "y", "tba"]
    [["lovelace", "", "ada", "", ""], ["x", "", "y", "", ""], ["y", "", "z", "", ""],
      ["tba", "", "", "", "DELETE"]]

theorem resolved_of_stages_of_reshuffled :
    let first := (Memory.warehouse ⟨0, 0⟩).transact .readWrite (importRenames reshuffled) {} {}
    let second := (Memory.warehouse ⟨0, 0⟩).transact .readWrite (importProfs reshuffled) first.2.1
      first.2.2
    first.1 = .ok ⟨.profRenames, [⟨"prof_rename", 4⟩]⟩ ∧ second.1 = .ok ⟨.profs, [⟨"prof", 3⟩]⟩ ∧
      ∃ profs rows, Legacy.load reshuffled.legacy profCollection LegacyProf.decoder = .ok profs ∧
        (second.2.2.table "prof").rows = (first.2.2.table "prof").rows ++ rows ∧
        Resolved first.2.1 second.2.1 profs rows := by
  intro first second
  have hfirst : first.1 = .ok ⟨.profRenames, [⟨"prof_rename", 4⟩]⟩ := by decide +kernel
  have hsecond : second.1 = .ok ⟨.profs, [⟨"prof", 3⟩]⟩ := by decide +kernel
  have hrenames : (Memory.warehouse ⟨0, 0⟩).transact .readWrite (importRenames reshuffled) {} {} =
      (.ok _, first.2.1, first.2.2) := Prod.ext hfirst rfl
  have hprofs : (Memory.warehouse ⟨0, 0⟩).transact .readWrite (importProfs reshuffled) first.2.1
      first.2.2 = (.ok _, second.2.1, second.2.2) := Prod.ext hsecond rfl
  obtain ⟨_, _, profs, rows, -, -, -, hload, hrows, hresolved⟩ :=
    resolved_of_stages hrenames hprofs
  exact ⟨hfirst, hsecond, profs, rows, hload, hrows, hresolved⟩

/-- Two professors exchange their codes. -/
def exchanged : Sources :=
  professors ["a", "b"] [["a", "", "b", "", ""], ["b", "", "a", "", ""]]

/-- Both of two professors who exchange their codes lead to the row of the first one, and nobody to
the row of the second one. -/
theorem exchanged_share_a_row :
    let first := (Memory.warehouse ⟨0, 0⟩).transact .readWrite (importRenames exchanged) {} {}
    let second := (Memory.warehouse ⟨0, 0⟩).transact .readWrite (importProfs exchanged) first.2.1
      first.2.2
    first.1 = .ok ⟨.profRenames, [⟨"prof_rename", 2⟩]⟩ ∧ second.1 = .ok ⟨.profs, [⟨"prof", 2⟩]⟩ ∧
      first.2.1.codeOf? "a" = some "b" ∧ first.2.1.codeOf? "b" = some "a" ∧
      HasCode (second.2.2.table "prof").rows "b" 1 ∧
      HasCode (second.2.2.table "prof").rows "a" 2 ∧
      second.2.1.get? .prof (.key "a") = some 1 ∧ second.2.1.get? .prof (.key "b") = some 1 := by
  decide +kernel

end Registrar.Import
