import Registrar.Proofs.Import.Firsts
import Registrar.Proofs.Import.Places
import Registrar.Proofs.Import.Renaming
/-!
# The list of corrections

Every record of the list must have five columns. A record with a new code, a new name or a flag
`Corrects` a professor, and of those that correct the same one the last has the say, at the place of
the first (`Listed`). The table of corrections and the lookup by code are made from the list apart
from each other and say the same (`Mirrored`).
-/
namespace Registrar.Import

open Memory (HasCells Row)

/-! ## What a record says -/

/-- The record makes the correction: it has a new code, a new name or a flag, and what it leaves open
of code and name stays the old one. -/
def Corrects (record : List String) (rename : Rename) : Prop :=
  ∃ newCode newName flag, record = [rename.oldCode, rename.oldName, newCode, newName, flag] ∧
    (newCode ≠ "" ∨ newName ≠ "" ∨ flag ≠ "") ∧
    rename.newCode = (if newCode = "" then rename.oldCode else newCode) ∧
    rename.newName = (if newName = "" then rename.oldName else newName) ∧
    (rename.delete = true ↔ flag = "DELETE")

/-- The record corrects somebody. -/
def Effective (record : List String) : Prop := ∃ rename, Corrects record rename

theorem corrects_iff {record : List String} {rename : Rename} :
    Corrects record rename ↔ Rename.ofRecord? record = some (some rename) := by
  constructor
  · rintro ⟨newCode, newName, flag, rfl, heffective, hcode, hname, hdelete⟩
    have hsays : ¬(newCode = "" ∧ newName = "" ∧ flag = "") := by tauto
    have hflag : decide (flag = "DELETE") = rename.delete := by
      by_cases h : flag = "DELETE" <;> simp_all
    simp only [Rename.ofRecord?, if_neg hsays, ← hcode, ← hname, hflag]
  · intro h
    unfold Rename.ofRecord? at h
    split at h
    · rename_i oldCode oldName newCode newName flag
      by_cases hsilent : newCode = "" ∧ newName = "" ∧ flag = ""
      · simp [hsilent] at h
      · rw [if_neg hsilent] at h
        cases h
        exact ⟨newCode, newName, flag, rfl, by tauto, rfl, rfl, by simp⟩
    · cases h

instance : DecidablePred Effective := fun record =>
  decidable_of_iff ((Rename.ofRecord? record).join.isSome) (by
    simp [Effective, corrects_iff, Option.isSome_iff_exists, Option.join_eq_some_iff])

theorem Corrects.unique {record : List String} {rename other : Rename}
    (h : Corrects record rename) (h' : Corrects record other) : rename = other := by
  rw [corrects_iff] at h h'
  cases h.symm.trans h'
  rfl

/-- The first column names the professor. -/
theorem Corrects.head?_eq {record : List String} {rename : Rename} (h : Corrects record rename) :
    record.head? = some rename.oldCode := by
  obtain ⟨_, _, _, rfl, -⟩ := h
  rfl

theorem ofRecord?_eq_none_iff {record : List String} :
    Rename.ofRecord? record = none ↔ record.length ≠ 5 := by
  unfold Rename.ofRecord?
  split
  · split <;> simp
  · rename_i hshape
    simp only [true_iff]
    intro hlength
    match record, hlength with
    | [oldCode, oldName, newCode, newName, flag], _ => exact hshape _ _ _ _ _ rfl

/-! ## The last correction -/

/-- The correction is made by the last record that corrects its professor. -/
def LastCorrection (records : List (List String)) (rename : Rename) : Prop :=
  ∃ before record after, records = before ++ record :: after ∧ Corrects record rename ∧
    ∀ other ∈ after, ∀ later, Corrects other later → later.oldCode ≠ rename.oldCode

/-- One more record makes the last correction or leaves it as it was. -/
theorem lastCorrection_concat_iff {records : List (List String)} {record : List String}
    {rename : Rename} :
    LastCorrection (records ++ [record]) rename ↔ Corrects record rename ∨
      LastCorrection records rename ∧
        ∀ later, Corrects record later → later.oldCode ≠ rename.oldCode := by
  constructor
  · rintro ⟨before, last, after, heq, hlast, hafter⟩
    rcases List.eq_nil_or_concat after with rfl | ⟨after, other, rfl⟩
    · obtain ⟨rfl, hsame⟩ := List.append_inj' heq rfl
      cases hsame
      exact Or.inl hlast
    · rw [List.concat_eq_append, ← List.cons_append, ← List.append_assoc] at heq
      obtain ⟨rfl, hsame⟩ := List.append_inj' heq rfl
      cases hsame
      simp only [List.concat_eq_append, List.mem_append, List.mem_singleton] at hafter
      exact Or.inr ⟨⟨before, last, after, rfl, hlast, fun other hother => hafter other (.inl hother)⟩,
        hafter record (.inr rfl)⟩
  · rintro (hrecord | ⟨⟨before, last, after, rfl, hlast, hafter⟩, hrecord⟩)
    · exact ⟨records, record, [], rfl, hrecord, by simp⟩
    · refine ⟨before, last, after ++ [record], by simp, hlast, fun other hother => ?_⟩
      rcases List.mem_append.1 hother with hold | hnew
      · exact hafter other hold
      · rw [List.mem_singleton.1 hnew]
        exact hrecord

/-- A correction takes the place of another one of the same professor. -/
theorem Rename.mem_add_iff {rename other : Rename} {renames : List Rename}
    (h : (renames.map Rename.oldCode).Nodup) :
    other ∈ rename.add renames ↔
      other = rename ∨ other ∈ renames ∧ rename.oldCode ≠ other.oldCode := by
  induction renames with
  | nil => simp [Rename.add]
  | cons first rest ih =>
    obtain ⟨hnew, hrest⟩ := List.nodup_cons.1 h
    unfold Rename.add
    by_cases hfirst : first.oldCode = rename.oldCode
    · have hothers : ∀ later ∈ rest, rename.oldCode ≠ later.oldCode := by
        intro later hlater hcode
        exact hnew (List.mem_map.2 ⟨later, hlater, by rw [hfirst, hcode]⟩)
      rw [if_pos hfirst]
      simp only [List.mem_cons]
      constructor
      · rintro (rfl | hother)
        · exact Or.inl rfl
        · exact Or.inr ⟨Or.inr hother, hothers other hother⟩
      · rintro (rfl | ⟨rfl | hother, hne⟩)
        · exact Or.inl rfl
        · exact absurd hfirst.symm hne
        · exact Or.inr hother
    · rw [if_neg hfirst]
      simp only [List.mem_cons, ih hrest]
      constructor
      · rintro (rfl | rfl | ⟨hother, hne⟩)
        · exact Or.inr ⟨Or.inl rfl, Ne.symm hfirst⟩
        · exact Or.inl rfl
        · exact Or.inr ⟨Or.inr hother, hne⟩
      · rintro (rfl | ⟨rfl | hother, hne⟩)
        · exact Or.inr (Or.inl rfl)
        · exact Or.inl rfl
        · exact Or.inr (Or.inr ⟨hother, hne⟩)

/-! ## The list -/

/-- What the records come to. -/
structure Listed (records : List (List String)) (renames : List Rename) : Prop where
  /-- Professors come in the order in which they are first corrected. -/
  order : ∃ firsts, Firsts Effective List.head? records firsts ∧
    firsts.map List.head? = renames.map fun rename => some rename.oldCode
  /-- Of each professor it is the last correction that counts. -/
  mem_iff : ∀ rename, rename ∈ renames ↔ LastCorrection records rename

namespace Listed

variable {records : List (List String)} {renames : List Rename}

theorem nil : Listed [] [] := ⟨⟨[], Firsts.nil, rfl⟩, by simp [LastCorrection]⟩

/-- No professor comes twice. -/
theorem nodup (h : Listed records renames) : (renames.map Rename.oldCode).Nodup := by
  obtain ⟨firsts, hfirsts, hcodes⟩ := h.order
  have hnodup := hfirsts.nodup
  rw [hcodes, ← Function.comp_def, ← List.map_map] at hnodup
  exact hnodup.of_map _

/-- The professors are those whom an effective record names. -/
theorem mem_codes_iff (h : Listed records renames) (code : String) :
    code ∈ renames.map Rename.oldCode ↔
      ∃ record ∈ records, ∃ rename, Corrects record rename ∧ rename.oldCode = code := by
  obtain ⟨firsts, hfirsts, hcodes⟩ := h.order
  have hmem : code ∈ renames.map Rename.oldCode ↔ some code ∈ firsts.map List.head? := by
    simp [hcodes]
  rw [hmem, hfirsts.mem_keys_iff]
  refine exists_congr fun record => and_congr_right fun _ => ?_
  constructor
  · rintro ⟨⟨rename, hrename⟩, hhead⟩
    rw [hrename.head?_eq] at hhead
    exact ⟨rename, hrename, Option.some.inj hhead⟩
  · rintro ⟨rename, hrename, rfl⟩
    exact ⟨⟨rename, hrename⟩, hrename.head?_eq⟩

/-- A record that corrects nobody changes nothing. -/
theorem skip (h : Listed records renames) {record : List String} (hrecord : ¬Effective record) :
    Listed (records ++ [record]) renames where
  order := by
    obtain ⟨firsts, hfirsts, hcodes⟩ := h.order
    exact ⟨firsts, hfirsts.skip fun hboth => hrecord hboth.1, hcodes⟩
  mem_iff rename := by
    rw [h.mem_iff, lastCorrection_concat_iff]
    constructor
    · intro hlast
      exact Or.inr ⟨hlast, fun later hlater => absurd ⟨later, hlater⟩ hrecord⟩
    · rintro (hnew | ⟨hlast, -⟩)
      · exact absurd ⟨rename, hnew⟩ hrecord
      · exact hlast

/-- One more correction. -/
theorem add (h : Listed records renames) {record : List String} {rename : Rename}
    (hrecord : Corrects record rename) : Listed (records ++ [record]) (rename.add renames) where
  order := by
    obtain ⟨firsts, hfirsts, hcodes⟩ := h.order
    refine ⟨addFirst Effective List.head? firsts record, hfirsts.step record, ?_⟩
    have hmem : record.head? ∈ firsts.map List.head? ↔
        rename.oldCode ∈ renames.map Rename.oldCode := by
      rw [hcodes, hrecord.head?_eq]
      simp
    have heffective : Effective record := ⟨rename, hrecord⟩
    have hrenames : (rename.add renames).map (fun rename => some rename.oldCode) =
        ((rename.add renames).map Rename.oldCode).map some := by simp
    rw [hrenames, Rename.oldCodes_add]
    by_cases hold : rename.oldCode ∈ renames.map Rename.oldCode
    · rw [if_pos hold, addFirst, if_neg fun hnew => hnew.2 (hmem.2 hold), hcodes]
      simp
    · rw [if_neg hold, addFirst, if_pos ⟨heffective, fun hnew => hold (hmem.1 hnew)⟩]
      simp [hcodes, hrecord.head?_eq]
  mem_iff other := by
    rw [Rename.mem_add_iff h.nodup, lastCorrection_concat_iff, h.mem_iff]
    constructor
    · rintro (rfl | ⟨hlast, hne⟩)
      · exact Or.inl hrecord
      · refine Or.inr ⟨hlast, fun later hlater => ?_⟩
        rwa [hlater.unique hrecord]
    · rintro (hother | ⟨hlast, hne⟩)
      · exact Or.inl (hother.unique hrecord)
      · exact Or.inr ⟨hlast, hne rename hrecord⟩

end Listed

/-- Records that are all read are listed behind those before. -/
theorem Listed.run {records rest : List (List String)} {before after : List Rename} {index : Nat}
    (h : Listed records before) (hread : readRenames index before rest = .ok after) :
    Listed (records ++ rest) after := by
  induction rest generalizing records before index with
  | nil =>
    cases hread
    simpa using h
  | cons record rest ih =>
    rw [readRenames] at hread
    rw [← List.singleton_append, ← List.append_assoc]
    split at hread
    · cases hread
    · rename_i hsilent
      refine ih (h.skip ?_) hread
      rintro ⟨rename, hrename⟩
      rw [corrects_iff, hsilent] at hrename
      cases hrename
    · rename_i rename hrename
      exact ih (h.add (corrects_iff.2 hrename)) hread

/-! ## Records of another length -/

/-- Reading goes on past a record of five columns. -/
theorem exists_readRenames_cons {record : List String} (h : record.length = 5) (index : Nat)
    (before : List Rename) : ∃ next, ∀ rest,
      readRenames index before (record :: rest) = readRenames (index + 1) next rest := by
  have hshape := mt ofRecord?_eq_none_iff.1 (not_not.2 h)
  simp only [readRenames]
  split
  · exact absurd ‹_› hshape
  · exact ⟨before, fun _ => rfl⟩
  · rename_i rename _
    exact ⟨rename.add before, fun _ => rfl⟩

/-- Reading succeeds where every record has five columns. -/
theorem exists_readRenames {records : List (List String)}
    (h : ∀ record ∈ records, record.length = 5) (index : Nat) (before : List Rename) :
    ∃ renames, readRenames index before records = .ok renames := by
  induction records generalizing index before with
  | nil => exact ⟨before, rfl⟩
  | cons record rest ih =>
    obtain ⟨next, hnext⟩ := exists_readRenames_cons (h record List.mem_cons_self) index before
    rw [hnext]
    exact ih (fun other hother => h other (List.mem_cons_of_mem _ hother)) _ _

/-- Reading fails at the first record that has not five columns. -/
theorem readRenames_eq_error {passed rest : List (List String)} {record : List String}
    (hpassed : ∀ other ∈ passed, other.length = 5) (hrecord : record.length ≠ 5) (index : Nat)
    (before : List Rename) :
    readRenames index before (passed ++ record :: rest) = .error (.legacy renameFile
      s!"row {index + passed.length}: expected 5 columns, got {record.length}") := by
  induction passed generalizing index before with
  | nil => simp [readRenames, ofRecord?_eq_none_iff.2 hrecord]
  | cons other passed ih =>
    obtain ⟨next, hnext⟩ := exists_readRenames_cons (hpassed other List.mem_cons_self) index before
    have hrest : ∀ other ∈ passed, other.length = 5 :=
      fun other hother => hpassed other (List.mem_cons_of_mem _ hother)
    rw [List.cons_append, hnext, ih hrest]
    have hindex : index + 1 + passed.length = index + (passed.length + 1) := by omega
    rw [hindex, List.length_cons]

/-- Reading succeeds if and only if every record has five columns. -/
theorem exists_readRenames_iff {records : List (List String)} :
    (∃ renames, readRenames 0 [] records = .ok renames) ↔ ∀ record ∈ records, record.length = 5 := by
  refine ⟨?_, fun h => exists_readRenames h 0 []⟩
  rintro ⟨renames, hok⟩
  by_contra hsome
  push Not at hsome
  obtain ⟨passed, record, ⟨rest, hstarts⟩, hrecord, hpassed⟩ := exists_first hsome
  rw [← hstarts, List.append_assoc, List.singleton_append,
    readRenames_eq_error (fun other hother => not_not.1 (hpassed other hother)) hrecord] at hok
  cases hok

/-! ## The table and the lookup -/

theorem IdMap.mem_of_rename? {ids : IdMap} {code : String} {rename : Rename}
    (h : ids.rename? code = some rename) : rename ∈ ids.renames ∧ rename.oldCode = code := by
  have hcode := List.find?_some h
  exact ⟨List.mem_reverse.1 (List.mem_of_find?_eq_some h), of_decide_eq_true hcode⟩

/-- Looking up a code finds the correction with that old code. -/
theorem IdMap.rename?_eq_some_iff {ids : IdMap} (h : (ids.renames.map Rename.oldCode).Nodup)
    {code : String} {rename : Rename} :
    ids.rename? code = some rename ↔ rename ∈ ids.renames ∧ rename.oldCode = code := by
  refine ⟨IdMap.mem_of_rename?, ?_⟩
  rintro ⟨hmem, rfl⟩
  have hsome : (ids.rename? rename.oldCode).isSome :=
    List.find?_isSome.2 ⟨rename, List.mem_reverse.2 hmem, decide_eq_true rfl⟩
  obtain ⟨other, hother⟩ := Option.isSome_iff_exists.1 hsome
  obtain ⟨hmem', hcode⟩ := IdMap.mem_of_rename? hother
  rw [hother, List.inj_on_of_nodup_map h hmem' hmem hcode]

theorem IdMap.rename?_eq_none_iff {ids : IdMap} {code : String} :
    ids.rename? code = none ↔ ∀ rename ∈ ids.renames, rename.oldCode ≠ code := by
  simp [IdMap.rename?, List.find?_eq_none]

theorem Rename.eq_of_cells {rename other : Rename} (h : rename.cells = other.cells) :
    rename = other := by
  cases rename
  cases other
  simpa [Rename.cells] using h

/-- The lookup by code and the rows of the table say the same. -/
structure Mirrored (ids : IdMap) (rows : List Row) : Prop where
  once : (rows.map fun row => row.lookup "old_code").Nodup
  /-- What a lookup finds is what the cells of a row say, all of them. -/
  found : ∀ code rename, ids.rename? code = some rename ↔
    rename.oldCode = code ∧ ∃ row ∈ rows, HasCells rename.cells row
  missing : ∀ code, ids.rename? code = none ↔
    ∀ row ∈ rows, row.lookup "old_code" ≠ some (.text code)

theorem mirrored_of_rows {ids : IdMap} {rows : List Row}
    (hnodup : (ids.renames.map Rename.oldCode).Nodup)
    (hrows : List.Forall₂ (fun rename => HasCells rename.cells) ids.renames rows) :
    Mirrored ids rows := by
  have hcode : ∀ {rename : Rename} {row : Row}, HasCells rename.cells row →
      row.lookup "old_code" = some (.text rename.oldCode) := fun hcells => hcells.lookup rfl
  have hcodes : rows.map (fun row => row.lookup "old_code") =
      (ids.renames.map Rename.oldCode).map fun code => some (.text code) := by
    rw [List.map_map]
    exact (map_eq_map_iff_forall₂.2 (hrows.imp fun _ _ hcells => (hcode hcells).symm)).symm
  refine ⟨?_, fun code rename => ?_, fun code => ?_⟩
  · rw [hcodes]
    exact hnodup.map fun code code' hsame => by simpa using hsame
  · rw [IdMap.rename?_eq_some_iff hnodup, Memory.exists_hasCells_iff Rename.eq_of_cells hrows,
      and_comm]
  · rw [IdMap.rename?_eq_none_iff]
    constructor
    · intro hnone row hrow hlookup
      obtain ⟨rename, hrename, hcells⟩ := exists_of_forall₂ hrows.flip hrow
      rw [hcode hcells] at hlookup
      cases hlookup
      exact hnone rename hrename rfl
    · rintro hnone rename hrename rfl
      obtain ⟨row, hrow, hcells⟩ := exists_of_forall₂ hrows hrename
      exact hnone row hrow (hcode hcells)

/-! ## The stage -/

/-- **The list of corrections** is read unless a record has not five columns, and then the first such
record is named. What is read is one correction for each code that an effective record names, in the
order of first naming and with what the last such record says. Once the stage has succeeded, looking
up a code finds what the row with that code says. -/
theorem corrections_listed (records : List (List String)) :
    ((∃ renames, readRenames 0 [] records = .ok renames) ↔
      ∀ record ∈ records, record.length = 5) ∧
    (∀ passed record rest, records = passed ++ record :: rest →
      (∀ other ∈ passed, other.length = 5) → record.length ≠ 5 →
      readRenames 0 [] records = .error (.legacy renameFile
        s!"row {passed.length}: expected 5 columns, got {record.length}")) ∧
    (∀ renames, readRenames 0 [] records = .ok renames →
      (renames.map Rename.oldCode).Nodup ∧
      (∀ code, code ∈ renames.map Rename.oldCode ↔
        ∃ record ∈ records, ∃ rename, Corrects record rename ∧ rename.oldCode = code) ∧
      Listed records renames) ∧
    ∀ now sources ids tx report ids' tx', sources.legacy.records renameFile = .ok records →
      Memory.perform now (importRenames sources) ids tx = (.ok report, ids', tx') →
      ∃ rows, (tx'.work.table "prof_rename").rows = (tx.work.table "prof_rename").rows ++ rows ∧
        readRenames 0 [] records = .ok ids'.renames ∧ Mirrored ids' rows := by
  have hlisted : ∀ {renames}, readRenames 0 [] records = .ok renames → Listed records renames :=
    fun hread => Listed.nil.run hread
  refine ⟨exists_readRenames_iff, ?_, ?_, ?_⟩
  · rintro passed record rest rfl hpassed hrecord
    simpa using readRenames_eq_error hpassed hrecord 0 []
  · intro renames hread
    exact ⟨(hlisted hread).nodup, (hlisted hread).mem_codes_iff, hlisted hread⟩
  · intro now sources ids tx report ids' tx' hrecords hperform
    obtain ⟨records', hrecords', renames, hread, -, -, rfl, rfl⟩ :=
      (yields_importRenames now).1 hperform
    obtain rfl := Except.ok.inj (hrecords.symm.trans hrecords')
    refine ⟨_, ?_, hread, mirrored_of_rows (hlisted hread).nodup
      (Memory.forall₂_hasCells renameLayout_writes renames (tx.work.table "prof_rename").lastId)⟩
    rw [Memory.table_store_toRows]
    exact Memory.Tables.rows_add _ _ _

/-- A professor is to be deleted at first and has another name in the end, one stays as he is, and one
gets a new code. -/
def revisedRecords : List (List String) :=
  [["ada", "Ada", "", "", "DELETE"], ["bob", "Bob", "", "", ""], ["eve", "Eve", "eva", "", ""],
    ["ada", "Ada", "", "Ada L.", ""]]

/-- The records with one more that lacks its flag. -/
def clippedRecords : List (List String) := revisedRecords ++ [["bob", "Bob", "rob", ""]]

theorem corrections_listed_of_revisedRecords :
    let performed := Memory.perform ⟨0, 0⟩ (importRenames (professors [] revisedRecords)) {}
      (Memory.begin {})
    performed.1 = .ok ⟨.profRenames, [⟨"prof_rename", 2⟩]⟩ ∧
    performed.2.1.rename? "ada" = some ⟨"ada", "Ada", "ada", "Ada L.", false⟩ ∧
    performed.2.1.rename? "bob" = none ∧
    (performed.2.2.work.table "prof_rename").rows =
      [[("old_code", .text "ada"), ("old_name", .text "Ada"), ("new_code", .text "ada"),
          ("new_name", .text "Ada L."), ("delete", .bool false), ("id", .bigint 1)],
        [("old_code", .text "eve"), ("old_name", .text "Eve"), ("new_code", .text "eva"),
          ("new_name", .text "Eve"), ("delete", .bool false), ("id", .bigint 2)]] ∧
    Mirrored performed.2.1 (performed.2.2.work.table "prof_rename").rows ∧
    Listed revisedRecords performed.2.1.renames ∧
    readRenames 0 [] clippedRecords =
      .error (.legacy renameFile "row 4: expected 5 columns, got 4") := by
  intro performed
  have hresult : performed.1 = .ok ⟨.profRenames, [⟨"prof_rename", 2⟩]⟩ := by decide +kernel
  obtain ⟨-, -, hlisted, hstage⟩ := corrections_listed revisedRecords
  obtain ⟨-, hnamed, -, -⟩ := corrections_listed clippedRecords
  obtain ⟨rows, hrows, hread, hmirrored⟩ := hstage ⟨0, 0⟩ (professors [] revisedRecords) {}
    (Memory.begin {}) _ performed.2.1 performed.2.2 rfl (Prod.ext hresult rfl)
  have hall : (performed.2.2.work.table "prof_rename").rows = rows := hrows
  refine ⟨hresult, by decide +kernel, by decide +kernel, by decide +kernel, hall ▸ hmirrored,
    (hlisted _ hread).2.2, ?_⟩
  exact hnamed revisedRecords ["bob", "Bob", "rob", ""] [] rfl (by decide) (by decide)

end Registrar.Import
