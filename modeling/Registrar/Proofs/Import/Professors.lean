import Registrar.Proofs.Import.Firsts
import Registrar.Proofs.Import.Places
import Registrar.Proofs.Import.Renaming
/-!
# Which professors become rows

A professor that is not deleted becomes a row if no earlier one has the same corrected code; the
others join that row. A row *claims* its own code and the legacy id of everybody in it (`Claims`),
and a legacy id that led nowhere leads to the first row that claims it (`Claimed`). Whatever a legacy
id leads to is hence a row that it has something to do with.

Main statement: `professors_merged`.
-/
namespace Registrar.Import

open Memory (Row idsAfter)

variable {ids ids' : IdMap} {profs chosen : List LegacyProf} {groups : List ProfGroup} {lastId : Nat}

/-! ## Codes and names -/

/-- The name of a professor after correction. -/
def IdMap.nameOf (ids : IdMap) (prof : LegacyProf) : String :=
  match ids.rename? prof.id with
  | some rename => rename.newName
  | none => Text.trimmed (prof.firstName ++ " " ++ prof.lastName)

namespace LegacyProf

theorem corrected?_eq (ids : IdMap) (prof : LegacyProf) :
    prof.corrected? ids = (ids.codeOf? prof.id).map fun code => (code, ids.nameOf prof) := by
  unfold corrected? IdMap.codeOf? IdMap.nameOf
  cases ids.rename? prof.id with
  | none => rfl
  | some rename => cases h : rename.delete <;> simp [h]

/-- The code of a professor after correction. -/
def code? (ids : IdMap) (prof : LegacyProf) : Option String := ids.codeOf? prof.id

/-- No correction deletes the professor. -/
def Kept (ids : IdMap) (prof : LegacyProf) : Prop :=
  ∀ rename, ids.rename? prof.id = some rename → rename.delete = false

theorem kept_iff {prof : LegacyProf} : prof.Kept ids ↔ prof.code? ids ≠ none := by
  unfold Kept code? IdMap.codeOf?
  cases ids.rename? prof.id with
  | none => simp
  | some rename => cases h : rename.delete <;> simp [h]

instance (ids : IdMap) : DecidablePred (Kept ids) := fun _ => decidable_of_iff _ kept_iff.symm

end LegacyProf

open LegacyProf (Kept code?)

/-- The row has the corrected code and the corrected name of the professor. -/
def Shows (ids : IdMap) (prof : LegacyProf) (row : Row) : Prop :=
  ∃ code id, prof.code? ids = some code ∧
    row = [("name", .text (ids.nameOf prof)), ("code", .text code), ("id", .bigint id)]

/-! ## Who gives a group its name -/

/-- What a group is called. -/
def ProfGroup.heading (group : ProfGroup) : String × String := (group.code, group.name)

/-- The group has the corrected code and the corrected name of the professor. -/
def Heads (ids : IdMap) (prof : LegacyProf) (group : ProfGroup) : Prop :=
  prof.corrected? ids = some group.heading

theorem Heads.code {prof : LegacyProf} {group : ProfGroup} (h : Heads ids prof group) :
    prof.code? ids = some group.code := by
  rw [code?, ← prof.code_corrected? ids, h]
  rfl

theorem Heads.name {prof : LegacyProf} {group : ProfGroup} (h : Heads ids prof group) :
    group.name = ids.nameOf prof := by
  rw [Heads, prof.corrected?_eq ids, Option.map_eq_some_iff] at h
  obtain ⟨code, -, hpair⟩ := h
  exact (Prod.mk.inj hpair).2.symm

theorem map_heading_iff : chosen.map (LegacyProf.corrected? ids) =
    (groups.map ProfGroup.heading).map some ↔ List.Forall₂ (Heads ids) chosen groups := by
  rw [List.map_map]
  exact map_eq_map_iff_forall₂

/-- One more professor gives a group its name if there is none yet with the corrected code. -/
theorem heads_step (h : List.Forall₂ (Heads ids) chosen groups) (prof : LegacyProf) :
    List.Forall₂ (Heads ids) (addFirst (Kept ids) (code? ids) chosen prof)
      (regroup ids groups prof) := by
  have hheads := map_heading_iff.2 h
  have hcodes : chosen.map (code? ids) = (groups.map ProfGroup.code).map some := by
    rw [List.map_map]
    exact map_eq_map_iff_forall₂.2 (h.imp fun _ _ h => h.code)
  have hcorrected := prof.corrected?_eq ids
  unfold addFirst regroup
  cases hcode : ids.codeOf? prof.id with
  | none =>
    rw [hcode] at hcorrected
    rw [hcorrected, if_neg fun hnew => LegacyProf.kept_iff.1 hnew.1 hcode]
    exact h
  | some code =>
    rw [hcode] at hcorrected
    have hkept : Kept ids prof :=
      LegacyProf.kept_iff.2 fun hnone => by cases hnone.symm.trans hcode
    have hthere : prof.code? ids ∈ chosen.map (code? ids) ↔ code ∈ groups.map ProfGroup.code := by
      rw [hcodes, code?, hcode, List.mem_map_of_injective fun _ _ => Option.some.inj]
    have hgroups := map_addProf (f := ProfGroup.heading) (fun _ _ => rfl) prof.id code
      (ids.nameOf prof) groups
    refine map_heading_iff.1 ?_
    simp only [hcorrected, Option.map_some, hthere, hkept, true_and]
    rw [hgroups]
    by_cases hold : code ∈ groups.map ProfGroup.code
    · rw [if_neg (not_not.2 hold), if_pos hold, hheads]
    · rw [if_pos hold, if_neg hold, List.map_append, List.map_append, hheads, List.map_singleton,
        hcorrected]
      rfl

/-- **The first professor** of each corrected code gives the group of that code its name. -/
theorem heads_groupProfs (ids : IdMap) (profs : List LegacyProf) :
    List.Forall₂ (Heads ids) (profs.foldl (addFirst (Kept ids) (code? ids)) [])
      (groupProfs ids profs) := by
  have hrun : ∀ (profs chosen : List LegacyProf) (groups : List ProfGroup),
      List.Forall₂ (Heads ids) chosen groups →
      List.Forall₂ (Heads ids) (profs.foldl (addFirst (Kept ids) (code? ids)) chosen)
        (profs.foldl (regroup ids) groups) := by
    intro profs
    induction profs with
    | nil => exact fun _ _ h => h
    | cons prof rest ih => exact fun _ _ h => ih _ _ (heads_step h prof)
  exact hrun profs [] [] .nil

/-- Rows of groups show the professors who gave the groups their names. -/
theorem shows_groupRows (h : List.Forall₂ (Heads ids) chosen groups) (lastId : Nat) :
    List.Forall₂ (Shows ids) chosen (groupRows lastId groups) := by
  refine (forall₂_comp h (Memory.forall₂_numbered profLayout groups lastId)).imp ?_
  rintro prof row ⟨group, hheads, id, rfl⟩
  exact ⟨group.code, id, hheads.code, by rw [← hheads.name]; rfl⟩

/-! ## Claims -/

/-- The row has the legacy id as its code or is that of a professor with the id. -/
def Claims (ids : IdMap) (profs : List LegacyProf) (rows : List Row) (id : String) (row : Int) :
    Prop :=
  ∃ code, HasCode rows code row ∧
    (id = code ∨ ∃ prof ∈ profs, prof.id = id ∧ prof.code? ids = some code)

/-- Where the map leads once the rows of some professors have claimed their legacy ids. -/
structure Claimed (ids ids' : IdMap) (profs : List LegacyProf) (rows : List Row) : Prop where
  /-- What led somewhere still leads there. -/
  kept : ∀ entity name row, ids.get? entity name = some row → ids'.get? entity name = some row
  /-- Nothing is registered but keys of professors. -/
  only : ∀ entity name row, ids'.get? entity name = some row →
    ids.get? entity name = some row ∨ entity = .prof ∧ ∃ id, name = .key id
  /-- A legacy id that led nowhere leads to the first row that claims it. -/
  first : ∀ id row, ids.get? .prof (.key id) = none → (ids'.get? .prof (.key id) = some row ↔
    Claims ids profs rows id row ∧ ∀ other, Claims ids profs rows id other → row ≤ other)
  /-- The code of a row leads somewhere. -/
  codes : ∀ code row, HasCode rows code row → ∃ row', ids'.get? .prof (.key code) = some row'

theorem Grouped.claims_iff (h : Grouped ids profs groups) {id : String} {row : Int} :
    Claims ids profs (groupRows lastId groups) id row ↔
      ∃ (i : Nat) (group : ProfGroup), groups[i]? = some group ∧ id ∈ group.legacyIds ∧
        row = ((lastId + i + 1 : Nat) : Int) := by
  constructor
  · rintro ⟨code, hrow, hclaim⟩
    obtain ⟨i, group, hi, rfl, rfl⟩ := hasCode_iff.1 hrow
    exact ⟨i, group, hi, (h.claims group (List.mem_of_getElem? hi) id).2 hclaim, rfl⟩
  · rintro ⟨i, group, hi, hid, rfl⟩
    exact ⟨group.code, hasCode_iff.2 ⟨i, group, hi, rfl, rfl⟩,
      (h.claims group (List.mem_of_getElem? hi) id).1 hid⟩

namespace IdMap

theorem get?_claim_of_ne (row : Int) (names : List String) (ids : IdMap) {entity : Entity}
    {name : LegacyId} (h : ∀ id, (entity, name) ≠ (.prof, .key id)) :
    (ids.claim row names).get? entity name = ids.get? entity name := by
  induction names generalizing ids with
  | nil => rfl
  | cons first rest ih =>
    rw [claim, ih]
    split
    · have hbeq : ((entity, name) == (.prof, .key first)) = false := beq_eq_false_iff_ne.2 (h first)
      simp [get?, registered, List.lookup_append, List.lookup_cons, hbeq]
    · rfl

/-- Groups claim keys of professors only. -/
theorem get?_claimGroups_of_ne (groups : List (ProfGroup × Int)) (ids : IdMap) {entity : Entity}
    {name : LegacyId} (h : ∀ id, (entity, name) ≠ (.prof, .key id)) :
    (ids.claimGroups groups).get? entity name = ids.get? entity name := by
  induction groups generalizing ids with
  | nil => rfl
  | cons group rest ih => exact (ih _).trans (get?_claim_of_ne _ _ ids h)

end IdMap

/-- A legacy id that led nowhere leads to the row of the first group that claims it. -/
theorem Grouped.leads_iff (h : Grouped ids profs groups) (lastId : Nat) {id : String} {row : Int}
    (hnone : ids.get? .prof (.key id) = none) :
    (ids.claimGroups (groups.zip (idsAfter lastId groups.length))).get? .prof (.key id) =
        some row ↔
      Claims ids profs (groupRows lastId groups) id row ∧
        ∀ other, Claims ids profs (groupRows lastId groups) id other → row ≤ other := by
  rw [IdMap.get?_claimGroups, hnone, Option.none_or,
    find?_zip_idsAfter fun group => decide (id ∈ group.legacyIds)]
  simp only [decide_eq_true_eq, h.claims_iff]
  constructor
  · rintro ⟨i, group, hi, hid, rfl, hfirst⟩
    refine ⟨⟨i, group, hi, hid, rfl⟩, ?_⟩
    rintro _ ⟨j, other, hj, hother, rfl⟩
    have hle := hfirst j other hj hother
    omega
  · rintro ⟨⟨i, group, hi, hid, rfl⟩, hfirst⟩
    refine ⟨i, group, hi, hid, rfl, fun j other hj hother => ?_⟩
    have hle := hfirst _ ⟨j, other, hj, hother, rfl⟩
    omega

/-- **The first group** that claims a legacy id keeps it. -/
theorem Grouped.claimed (h : Grouped ids profs groups) (lastId : Nat) :
    Claimed ids (ids.claimGroups (groups.zip (idsAfter lastId groups.length))) profs
      (groupRows lastId groups) where
  kept entity name row hrow := by
    by_cases hprof : ∃ id, (entity, name) = (Entity.prof, LegacyId.key id)
    · obtain ⟨id, hid⟩ := hprof
      cases hid
      rw [IdMap.get?_claimGroups, hrow]
      rfl
    · rw [IdMap.get?_claimGroups_of_ne _ _ (not_exists.1 hprof), hrow]
  only entity name row hrow := by
    by_cases hprof : ∃ id, (entity, name) = (Entity.prof, LegacyId.key id)
    · obtain ⟨id, hid⟩ := hprof
      cases hid
      exact Or.inr ⟨rfl, id, rfl⟩
    · rw [IdMap.get?_claimGroups_of_ne _ _ (not_exists.1 hprof)] at hrow
      exact Or.inl hrow
  first _ _ hnone := h.leads_iff lastId hnone
  codes code row hrow := by
    obtain ⟨i, group, hi, rfl, -⟩ := hasCode_iff.1 hrow
    have hclaims : group.code ∈ group.legacyIds :=
      (h.claims group (List.mem_of_getElem? hi) _).2 (Or.inl rfl)
    -- the group claims its code itself, so somebody has it in the end
    rw [IdMap.get?_claimGroups]
    refine Option.isSome_iff_exists.1 ?_
    rw [Option.isSome_or, Option.isSome_map, Bool.or_eq_true, List.find?_isSome]
    exact Or.inr ⟨_, List.mem_of_getElem? (getElem?_zip_idsAfter lastId hi), by simpa using hclaims⟩

/-! ## The stage -/

/-- **Professors become rows**, one for each corrected code: the row of the first professor with the
code, with the corrected name of that professor, in the order of these professors. The stage writes
them unless the table refuses them, and afterwards every legacy id that led nowhere leads to the first
row that claims it. -/
theorem professors_merged (now : Time.Instant) (ids : IdMap) {sources : Sources}
    {profs : List LegacyProf}
    (hload : Legacy.load sources.legacy profCollection LegacyProf.decoder = .ok profs) :
    ∃ chosen, Firsts (Kept ids) (code? ids) profs chosen ∧
      ∀ tx, ¬(chosen ≠ [] ∧ "prof" ∈ tx.work.failing) → ∃ rows ids' tx',
        Memory.perform now (importProfs sources) ids tx =
          (.ok ⟨.profs, [⟨"prof", chosen.length⟩]⟩, ids', tx') ∧
        (tx'.work.table "prof").rows = (tx.work.table "prof").rows ++ rows ∧
        List.Forall₂ (Shows ids) chosen rows ∧ Claimed ids ids' profs rows ∧
        ∀ name ≠ "prof", tx'.work.table name = tx.work.table name := by
  have hheads := heads_groupProfs ids profs
  refine ⟨_, firsts_foldl (Kept ids) (code? ids) profs, fun tx hopen => ?_⟩
  have hrefused : ¬Refused profLayout (groupProfs ids profs) tx := fun hrefused => by
    refine hopen ⟨fun hnil => hrefused.1 ?_, hrefused.2⟩
    rw [hnil] at hheads
    exact List.forall₂_nil_left_iff.1 hheads
  refine ⟨_, _, _, (yields_importProfs now).2
    ⟨profs, hload, hrefused, by rw [hheads.length_eq], rfl, rfl⟩, ?_, shows_groupRows hheads _,
    (grouped_groupProfs ids profs).claimed _, fun name hname => ?_⟩
  · rw [Memory.table_store_toRows]
    exact Memory.Tables.rows_add _ _ _
  · rw [Memory.table_store_toRows]
    exact Memory.Tables.add_of_ne _ hname _

/-- A store with some professors. -/
def staffed (profs : List LegacyProf) : Sources where
  legacy := Legacy.Store.ofData [(profCollection, profs.map fun prof => .object
    [("_id", .text prof.id), ("first_name", .text prof.firstName),
      ("last_name", .text prof.lastName)])] []
  batchSize := 1
  secret _ := "code"

/-- Two professors who are one, the first of them twice, one who is deleted and one who is known
already. -/
def faculty : List LegacyProf :=
  [⟨"b_becker", "B", "Becker"⟩, ⟨"tba", "TBA", ""⟩, ⟨"byron", "Byron", "Becker"⟩,
    ⟨"ada", " Ada ", ""⟩, ⟨"b_becker", "Bb", "Becker"⟩]

theorem professors_merged_of_faculty :
    let ids : IdMap := ⟨[((.prof, .key "ada"), 9)],
      [⟨"b_becker", "B Becker", "byron", "Byron W. Becker", false⟩,
        ⟨"tba", "TBA", "tba", "TBA", true⟩]⟩
    Legacy.load (staffed faculty).legacy profCollection LegacyProf.decoder = .ok faculty ∧
    ∃ chosen rows ids' tx', Firsts (Kept ids) (code? ids) faculty chosen ∧
      Memory.perform ⟨0, 0⟩ (importProfs (staffed faculty)) ids (Memory.begin {}) =
        (.ok ⟨.profs, [⟨"prof", 2⟩]⟩, ids', tx') ∧
      (tx'.work.table "prof").rows = rows ∧ List.Forall₂ (Shows ids) chosen rows ∧
      Claimed ids ids' faculty rows ∧
      rows.map (fun row => row.lookup "name") =
        [some (.text "Byron W. Becker"), some (.text "Ada")] ∧
      ids'.get? .prof (.key "b_becker") = some 1 ∧ ids'.get? .prof (.key "byron") = some 1 ∧
      ids'.get? .prof (.key "ada") = some 9 ∧ ids'.get? .prof (.key "tba") = none := by
  intro ids
  have hload : Legacy.load (staffed faculty).legacy profCollection LegacyProf.decoder =
      .ok faculty := rfl
  obtain ⟨chosen, hfirsts, hwritten⟩ := professors_merged ⟨0, 0⟩ ids hload
  obtain ⟨rows, ids', tx', hperform, hrows, hshows, hclaimed, -⟩ :=
    hwritten (Memory.begin {}) fun h => by cases h.2
  have hresult : (Memory.perform ⟨0, 0⟩ (importProfs (staffed faculty)) ids (Memory.begin {})).1 =
      .ok ⟨.profs, [⟨"prof", 2⟩]⟩ := by
    decide +kernel
  have hnames : ((Memory.perform ⟨0, 0⟩ (importProfs (staffed faculty)) ids
      (Memory.begin {})).2.2.work.table "prof").rows.map (fun row => row.lookup "name") =
      [some (.text "Byron W. Becker"), some (.text "Ada")] := by
    decide +kernel
  have hids : let ids' := (Memory.perform ⟨0, 0⟩ (importProfs (staffed faculty)) ids
      (Memory.begin {})).2.1
      ids'.get? .prof (.key "b_becker") = some 1 ∧ ids'.get? .prof (.key "byron") = some 1 ∧
        ids'.get? .prof (.key "ada") = some 9 ∧ ids'.get? .prof (.key "tba") = none := by
    decide +kernel
  rw [hperform] at hresult hnames hids
  have hall : (tx'.work.table "prof").rows = rows := hrows
  exact ⟨hload, chosen, rows, ids', tx', hfirsts, hperform.trans (Prod.ext hresult rfl), hall,
    hshows, hclaimed, hall ▸ hnames, hids⟩

end Registrar.Import
