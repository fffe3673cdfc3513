import Mathlib.Data.List.Flatten
import Registrar.Proofs.Import.Consistency
import Registrar.Proofs.Import.Deduplication
import Registrar.Proofs.Import.Renaming
/-!
# Rows that come once

A `Key` is a group of columns whose values no two rows of a table share. Records that differ in the
columns of a key become such rows if the table was empty before (`Unique.write`), and a stage writes
to tables of its own, so every stage that runs for the first time keeps the tables `Unique`
(`unique_work`). Stages that fail leave no trace, hence a run of selected stages over empty tables
leaves unique ones, however it ends (`unique_run`).
-/
namespace Registrar.Sql

/-- What a record has in a column. -/
def Layout.cell {ρ : Type} (layout : Layout ρ) (record : ρ) (column : String) : Option Value :=
  (layout.columns.zip (layout.values record)).lookup column

end Registrar.Sql

namespace Registrar.Import

open Memory (Row State Tables Transaction Yields IsRowOf numbered)

/-! ## Keys -/

/-- Columns of a table that tell its rows apart. -/
structure Key where
  table : String
  columns : List String
  deriving DecidableEq, Repr

/-- What a row has in the columns of a key. -/
def Key.values (key : Key) (row : Row) : List (Option Sql.Value) :=
  key.columns.map fun column => row.lookup column

/-- No two rows of the table have the same in the columns of the key. -/
def Key.Holds (key : Key) (tables : Tables) : Prop :=
  ((tables key.table).rows.map key.values).Nodup

/-- The keys of the warehouse. -/
def keys : List Key := [
  ⟨"course", ["code"]⟩, ⟨"prof", ["code"]⟩, ⟨"prof_rename", ["old_code"]⟩,
  ⟨"course_section", ["class_number", "term"]⟩, ⟨"review", ["course_id", "user_id"]⟩,
  ⟨"course_prerequisite", ["course_id", "prerequisite_id"]⟩,
  ⟨"course_antirequisite", ["course_id", "antirequisite_id"]⟩,
  ⟨"user_shortlist", ["course_id", "user_id"]⟩,
  ⟨"user_course_taken", ["course_id", "user_id", "term_id"]⟩,
  ⟨"user_schedule", ["user_id", "section_id"]⟩,
  ⟨"secret.user_email", ["user_id"]⟩, ⟨"secret.user_fb", ["user_id"]⟩]

/-- Columns of a table that lead from one course to another. -/
structure Edge where
  table : String
  source : String
  target : String
  deriving DecidableEq, Repr

/-- The edges between courses; corequisites are prerequisites with a mark. -/
def edges : List Edge := [
  ⟨"course_prerequisite", "course_id", "prerequisite_id"⟩,
  ⟨"course_antirequisite", "course_id", "antirequisite_id"⟩]

/-- Every key holds, and no course leads to itself. -/
structure Orderly (tables : Tables) : Prop where
  keys : ∀ key ∈ keys, key.Holds tables
  loopless : ∀ edge ∈ edges, ∀ row ∈ (tables edge.table).rows,
    row.lookup edge.source ≠ row.lookup edge.target

/-- Nobody has a password besides an account of another site. -/
def Exclusive (tables : Tables) : Prop :=
  ∀ password ∈ (tables "secret.user_email").rows, ∀ account ∈ (tables "secret.user_fb").rows,
    password.lookup "user_id" ≠ account.lookup "user_id"

/-- Nothing comes twice that may come once only. -/
structure Unique (tables : Tables) : Prop extends Orderly tables where
  exclusive : Exclusive tables

theorem unique_of_empty {tables : Tables} (hempty : ∀ name, (tables name).rows = []) :
    Unique tables where
  keys key _ := by simp [Key.Holds, hempty]
  loopless edge _ row hrow := by simp [hempty] at hrow
  exclusive password hpassword := by simp [hempty] at hpassword

/-! ## Records that fit their table -/

section

variable {ρ κ : Type} {layout : Sql.Layout ρ} {records : List ρ} {tables : Tables}

/-- The records come once, as far as keys and edges of their table are concerned. -/
structure Fits (layout : Sql.Layout ρ) (records : List ρ) : Prop where
  keys : ∀ key ∈ keys, key.table = layout.table →
    (∀ column ∈ key.columns, column ∈ layout.columns) ∧
    (records.map fun record => key.columns.map (layout.cell record)).Nodup
  loopless : ∀ edge ∈ edges, edge.table = layout.table →
    edge.source ∈ layout.columns ∧ edge.target ∈ layout.columns ∧
    ∀ record ∈ records, layout.cell record edge.source ≠ layout.cell record edge.target

theorem lookup_eq_cell (hshape : layout.WellShaped) {record : ρ} {row : Row}
    (hrow : IsRowOf layout record row) {column : String} (hcolumn : column ∈ layout.columns) :
    row.lookup column = layout.cell record column := by
  cases hcell : layout.cell record column with
  | some value => exact lookup_of_isRowOf hshape hrow hcell
  | none =>
    have hkeys : (layout.columns.zip (layout.values record)).map Prod.fst = layout.columns :=
      List.map_fst_zip (Nat.le_of_eq (hshape.values record).symm)
    rw [← hkeys] at hcolumn
    obtain ⟨cell, hmem, rfl⟩ := List.mem_map.1 hcolumn
    simpa using List.lookup_eq_none_iff.1 hcell cell hmem

theorem values_numbered (hshape : layout.WellShaped) {key : Key}
    (hcolumns : ∀ column ∈ key.columns, column ∈ layout.columns) (lastId : Nat) :
    (numbered lastId (layout.entries records)).map key.values =
      records.map fun record => key.columns.map (layout.cell record) := by
  refine List.ext_getElem? fun i => ?_
  simp only [List.getElem?_map, Memory.getElem?_numbered_entries, Option.map_map]
  refine congrArg (fun f => Option.map f records[i]?) (funext fun record => ?_)
  exact List.map_congr_left fun column hcolumn =>
    lookup_eq_cell hshape ⟨_, rfl⟩ (hcolumns column hcolumn)

theorem nodup_map_of_imp {μ : Type} {f : ρ → κ} {g : ρ → μ}
    (himp : ∀ record record', g record = g record' → f record = f record')
    (h : (records.map f).Nodup) : (records.map g).Nodup :=
  List.pairwise_map.2 ((List.pairwise_map.1 h).imp fun hne heq => hne (himp _ _ heq))

/-- Records of a table with a key fit if they differ in something that the columns of the key
tell. -/
theorem fits_of_key (key : Key) (hkey : ∀ other ∈ keys, other.table = layout.table → other = key)
    (hcolumns : ∀ column ∈ key.columns, column ∈ layout.columns)
    (hedges : ∀ edge ∈ edges, edge.table ≠ layout.table) (told : ρ → List Sql.Value)
    (hcells : ∀ record, key.columns.map (layout.cell record) = (told record).map some) {f : ρ → κ}
    (htold : ∀ record record', told record = told record' → f record = f record')
    (h : (records.map f).Nodup) : Fits layout records where
  keys other hother htable := by
    obtain rfl := hkey other hother htable
    refine ⟨hcolumns, nodup_map_of_imp (fun record record' heq => htold record record' ?_) h⟩
    rw [hcells, hcells] at heq
    exact List.map_injective_iff.2 (fun _ _ => Option.some.inj) heq
  loopless edge hedge htable := absurd htable (hedges edge hedge)

/-- Records of a table of edges fit if the edges are simple. -/
theorem fits_of_edge (edge : Edge)
    (hedge : ∀ other ∈ edges, other.table = layout.table → other = edge)
    (hkey : ∀ key ∈ keys, key.table = layout.table →
      key = ⟨edge.table, [edge.source, edge.target]⟩)
    (hsource : edge.source ∈ layout.columns) (htarget : edge.target ∈ layout.columns)
    {ends : ρ → Int × Int}
    (hcells : ∀ record, layout.cell record edge.source = some (.bigint (ends record).1) ∧
      layout.cell record edge.target = some (.bigint (ends record).2))
    (h : Simple (records.map ends)) : Fits layout records where
  keys key hmem htable := by
    obtain rfl := hkey key hmem htable
    refine ⟨by simp [hsource, htarget], nodup_map_of_imp (fun record record' heq => ?_) h.nodup⟩
    simp only [List.map_cons, List.map_nil, hcells, List.cons.injEq, Option.some.injEq,
      Sql.Value.bigint.injEq, and_true] at heq
    exact Prod.ext heq.1 heq.2
  loopless other hother htable := by
    obtain rfl := hedge other hother htable
    refine ⟨hsource, htarget, fun record hrecord heq => ?_⟩
    rw [(hcells record).1, (hcells record).2] at heq
    have hsame : (ends record).1 = (ends record).2 := by simpa using heq
    exact h.loopless (ends record) (List.mem_map_of_mem hrecord) hsame

/-- Records of a table without key or edges fit. -/
theorem fits_of_free (hkeys : ∀ key ∈ keys, key.table ≠ layout.table)
    (hedges : ∀ edge ∈ edges, edge.table ≠ layout.table) : Fits layout records where
  keys key hkey htable := absurd htable (hkeys key hkey)
  loopless edge hedge htable := absurd htable (hedges edge hedge)

end

/-! ## Every layout -/

theorem fits_courses {courses : List LegacyCourse}
    (h : (courses.map fun course => LegacyId.key course.id).Nodup) : Fits courseLayout courses :=
  fits_of_key ⟨"course", ["code"]⟩ (by decide) (by decide) (by decide)
    (fun course => [.text course.id]) (fun _ => rfl) (by simp) h

theorem fits_prerequisites {required : List Prerequisite}
    (h : Simple (required.map Prerequisite.ends)) : Fits prerequisiteLayout required :=
  fits_of_edge ⟨"course_prerequisite", "course_id", "prerequisite_id"⟩ (by decide) (by decide)
    (by decide) (by decide) (fun _ => ⟨rfl, rfl⟩) h

theorem fits_antirequisites {excluded : List Antirequisite}
    (h : Simple (excluded.map Antirequisite.ends)) : Fits antirequisiteLayout excluded :=
  fits_of_edge ⟨"course_antirequisite", "course_id", "antirequisite_id"⟩ (by decide) (by decide)
    (by decide) (by decide) (fun _ => ⟨rfl, rfl⟩) h

theorem fits_renames {renames : List Rename} (h : (renames.map Rename.oldCode).Nodup) :
    Fits Rename.layout renames :=
  fits_of_key ⟨"prof_rename", ["old_code"]⟩ (by decide) (by decide) (by decide)
    (fun rename => [.text rename.oldCode]) (fun _ => rfl) (by simp) h

theorem fits_groups {groups : List ProfGroup} (h : (groups.map ProfGroup.code).Nodup) :
    Fits profLayout groups :=
  fits_of_key ⟨"prof", ["code"]⟩ (by decide) (by decide) (by decide)
    (fun group => [.text group.code]) (fun _ => rfl) (by simp) h

theorem fits_sections {rows : List SectionRow} (h : (rows.map SectionRow.legacyId).Nodup) :
    Fits sectionLayout rows :=
  fits_of_key ⟨"course_section", ["class_number", "term"]⟩ (by decide) (by decide) (by decide)
    (fun row => [.integer row.classNumber, .integer row.term]) (fun _ => rfl)
    (by simp [SectionRow.legacyId]) h

theorem fits_meetings (meetings : List MeetingRow) : Fits meetingLayout meetings :=
  fits_of_free (by decide) (by decide)

theorem fits_users (users : List (LegacyUser × String)) : Fits userLayout users :=
  fits_of_free (by decide) (by decide)

theorem fits_passwords {rows : List PasswordRow} (h : (rows.map PasswordRow.user).Nodup) :
    Fits passwordLayout rows :=
  fits_of_key ⟨"secret.user_email", ["user_id"]⟩ (by decide) (by decide) (by decide)
    (fun row => [.bigint row.user]) (fun _ => rfl) (by simp) h

theorem fits_accounts {rows : List FacebookRow} (h : (rows.map FacebookRow.user).Nodup) :
    Fits facebookLayout rows :=
  fits_of_key ⟨"secret.user_fb", ["user_id"]⟩ (by decide) (by decide) (by decide)
    (fun row => [.bigint row.user]) (fun _ => rfl) (by simp) h

theorem fits_reviews {rows : List ReviewRow} (h : (rows.map ReviewRow.about).Nodup) :
    Fits reviewLayout rows :=
  fits_of_key ⟨"review", ["course_id", "user_id"]⟩ (by decide) (by decide) (by decide)
    (fun row => [.bigint row.course, .bigint row.user]) (fun _ => rfl)
    (by simp [ReviewRow.about]) h

theorem fits_upvotes (rows : List UpvoteRow) : Fits upvoteLayout rows :=
  fits_of_free (by decide) (by decide)

theorem fits_shortlist {rows : List ShortlistRow} (h : rows.Nodup) : Fits shortlistLayout rows :=
  fits_of_key ⟨"user_shortlist", ["course_id", "user_id"]⟩ (by decide) (by decide) (by decide)
    (fun row => [.bigint row.course, .bigint row.user]) (fun _ => rfl)
    (fun ⟨_, _⟩ ⟨_, _⟩ htold => by simpa using htold) (List.map_id rows ▸ h)

theorem fits_taken {rows : List TakenRow} (h : (rows.map TakenRow.about).Nodup) :
    Fits takenLayout rows :=
  fits_of_key ⟨"user_course_taken", ["course_id", "user_id", "term_id"]⟩ (by decide) (by decide)
    (by decide) (fun row => [.bigint row.course, .bigint row.user, .integer row.term])
    (fun _ => rfl) (by simp [TakenRow.about]) h

theorem fits_schedule {rows : List ScheduleRow} (h : rows.Nodup) : Fits scheduleLayout rows :=
  fits_of_key ⟨"user_schedule", ["user_id", "section_id"]⟩ (by decide) (by decide) (by decide)
    (fun row => [.bigint row.user, .bigint row.sectionId]) (fun _ => rfl)
    (fun ⟨_, _⟩ ⟨_, _⟩ htold => by simpa using htold) (List.map_id rows ▸ h)

/-! ## Stages -/

/-- The tables that the stage of a kind writes to, in order. -/
def StageKind.tables : StageKind → List String
  | courses => ["course"]
  | requisites => ["course_prerequisite", "course_antirequisite"]
  | profRenames => ["prof_rename"]
  | profs => ["prof"]
  | sections => ["course_section", "section_meeting"]
  | users => ["user", "secret.user_email", "secret.user_fb"]
  | reviews => ["review"]
  | histories => ["course_review_upvote", "user_shortlist", "user_course_taken"]
  | schedules => ["user_schedule"]

/-- Fitting records were written to some tables, one table after another. -/
inductive Fills : Tables → List String → Tables → Prop
  | nil (tables : Tables) : Fills tables [] tables
  | cons {ρ : Type} {layout : Sql.Layout ρ} {records : List ρ} {tables after : Tables}
      {names : List String} (hshape : layout.WellShaped) (hfits : Fits layout records)
      (hrest : Fills (tables.add layout.table (layout.entries records)) names after) :
      Fills tables (layout.table :: names) after

namespace Fills

variable {tables after : Tables} {names : List String}

theorem untouched (h : Fills tables names after) {name : String} (hname : name ∉ names) :
    after name = tables name := by
  induction h with
  | nil => rfl
  | cons hshape hfits hrest ih =>
    obtain ⟨hne, hother⟩ := not_or.1 (mt List.mem_cons.2 hname)
    rw [ih hother, Tables.add, if_neg hne]

end Fills

namespace Orderly

variable {tables after : Tables}

/-- Fitting records may be written to a table without rows. -/
theorem add {ρ : Type} {layout : Sql.Layout ρ} {records : List ρ} (h : Orderly tables)
    (hshape : layout.WellShaped) (hfits : Fits layout records)
    (hempty : (tables layout.table).rows = []) :
    Orderly (tables.add layout.table (layout.entries records)) := by
  have hrows : (tables.add layout.table (layout.entries records) layout.table).rows =
      numbered (tables layout.table).lastId (layout.entries records) := by
    simp [Tables.add, Memory.Table.extend, hempty]
  constructor
  · intro key hkey
    by_cases htable : key.table = layout.table
    · obtain ⟨hcolumns, hnodup⟩ := hfits.keys key hkey htable
      rw [Key.Holds, htable, hrows, values_numbered hshape hcolumns]
      exact hnodup
    · rw [Key.Holds, Tables.add, if_neg htable]
      exact h.keys key hkey
  · intro edge hedge row hrow
    by_cases htable : edge.table = layout.table
    · obtain ⟨hsource, htarget, hne⟩ := hfits.loopless edge hedge htable
      rw [htable, hrows] at hrow
      obtain ⟨record, hrecord, hisRow⟩ := Memory.isRowOf_of_mem_numbered hrow
      rw [lookup_eq_cell hshape hisRow hsource, lookup_eq_cell hshape hisRow htarget]
      exact hne record hrecord
    · rw [Tables.add, if_neg htable] at hrow
      exact h.loopless edge hedge row hrow

theorem fills {names : List String} (h : Orderly tables) (hfills : Fills tables names after)
    (hnodup : names.Nodup) (hempty : ∀ name ∈ names, (tables name).rows = []) : Orderly after := by
  induction hfills with
  | nil => exact h
  | @cons ρ layout records tables after names hshape hfits hrest ih =>
    obtain ⟨hnew, hnodup⟩ := List.nodup_cons.1 hnodup
    refine ih (h.add hshape hfits (hempty _ List.mem_cons_self)) hnodup fun name hname => ?_
    have hne : name ≠ layout.table := fun heq => hnew (heq ▸ hname)
    rw [Tables.add, if_neg hne]
    exact hempty name (List.mem_cons_of_mem _ hname)

end Orderly

section

variable {now : Time.Instant} {sources : Sources} {ids ids' : IdMap} {tx tx' : Transaction}
  {report : Report}

theorem fills_importCourses (h : Yields now (importCourses sources) ids tx report ids' tx') :
    Fills tx.work.table StageKind.courses.tables tx'.work.table := by
  obtain ⟨courses, -, -, hfresh, -, -, rfl⟩ := (yields_importCourses now).1 h
  rw [Memory.table_store_toRows]
  exact .cons courseLayout_wellShaped (fits_courses hfresh.nodup) (.nil _)

theorem fills_importRequisites (h : Yields now (importRequisites sources) ids tx report ids' tx') :
    Fills tx.work.table StageKind.requisites.tables tx'.work.table := by
  obtain ⟨courses, -, edges, hedges, -, -, -, -, rfl⟩ := (yields_importRequisites now).1 h
  have hsimple := simple_requisites hedges ⟨.nil, .nil⟩
  rw [Memory.table_store_toRows, Memory.table_store_toRows]
  exact .cons prerequisiteLayout_wellShaped (fits_prerequisites hsimple.required)
    (.cons antirequisiteLayout_wellShaped (fits_antirequisites hsimple.excluded) (.nil _))

theorem fills_importRenames (h : Yields now (importRenames sources) ids tx report ids' tx') :
    Fills tx.work.table StageKind.profRenames.tables tx'.work.table := by
  obtain ⟨records, -, renames, hrenames, -, -, -, rfl⟩ := (yields_importRenames now).1 h
  rw [Memory.table_store_toRows]
  exact .cons renameLayout_wellShaped (fits_renames (nodup_readRenames hrenames List.nodup_nil))
    (.nil _)

theorem fills_importProfs (h : Yields now (importProfs sources) ids tx report ids' tx') :
    Fills tx.work.table StageKind.profs.tables tx'.work.table := by
  obtain ⟨profs, -, -, -, -, rfl⟩ := (yields_importProfs now).1 h
  rw [Memory.table_store_toRows]
  exact .cons profLayout_wellShaped (fits_groups (grouped_groupProfs ids profs).nodup) (.nil _)

theorem fills_importSections (h : Yields now (importSections sources) ids tx report ids' tx') :
    Fills tx.work.table StageKind.sections.tables tx'.work.table := by
  obtain ⟨sections, -, rows, -, -, hfresh, -, -, -, rfl⟩ := (yields_importSections now).1 h
  rw [Memory.table_store_toRows, Memory.table_store_toRows]
  exact .cons sectionLayout_wellShaped (fits_sections hfresh.nodup)
    (.cons meetingLayout_wellShaped (fits_meetings _) (.nil _))

theorem fills_importUsers (h : Yields now (importUsers sources) ids tx report ids' tx') :
    Fills tx.work.table StageKind.users.tables tx'.work.table := by
  obtain ⟨users, -, -, -, -, -, -, -, rfl⟩ := (yields_importUsers now).1 h
  have hnodup := nodup_rows_zip users (tx.work.table userLayout.table).lastId
  rw [Memory.table_store_toRows, Memory.table_store_toRows, Memory.table_store_toRows]
  exact .cons userLayout_wellShaped (fits_users _)
    (.cons passwordLayout_wellShaped (fits_passwords (nodup_passwordRows hnodup))
      (.cons facebookLayout_wellShaped (fits_accounts (nodup_facebookRows hnodup)) (.nil _)))

theorem fills_importReviews (h : Yields now (importReviews sources) ids tx report ids' tx') :
    Fills tx.work.table StageKind.reviews.tables tx'.work.table := by
  obtain ⟨docs, -, reviews, hreviews, -, -, -, -, rfl⟩ := (yields_importReviews now).1 h
  have hnodup := nodup_collectReviews hreviews List.nodup_nil
  rw [Memory.table_store_toRows]
  exact .cons reviewLayout_wellShaped (fits_reviews (by rwa [List.map_map])) (.nil _)

theorem fills_importHistories (h : Yields now (importHistories sources) ids tx report ids' tx') :
    Fills tx.work.table StageKind.histories.tables tx'.work.table := by
  obtain ⟨docs, -, history, hhistory, -, -, -, -, -, rfl⟩ := (yields_importHistories now).1 h
  have hdistinct := distinct_collectHistory hhistory ⟨List.nodup_nil, List.nodup_nil⟩
  rw [Memory.table_store_toRows, Memory.table_store_toRows, Memory.table_store_toRows]
  exact .cons upvoteLayout_wellShaped (fits_upvotes _)
    (.cons shortlistLayout_wellShaped (fits_shortlist hdistinct.shortlist)
      (.cons takenLayout_wellShaped (fits_taken hdistinct.taken) (.nil _)))

theorem fills_importSchedules (h : Yields now (importSchedules sources) ids tx report ids' tx') :
    Fills tx.work.table StageKind.schedules.tables tx'.work.table := by
  obtain ⟨items, -, rows, hrows, -, -, -, rfl⟩ := (yields_importSchedules now).1 h
  rw [Memory.table_store_toRows]
  exact .cons scheduleLayout_wellShaped (fits_schedule (nodup_collectSchedule hrows List.nodup_nil))
    (.nil _)

/-- **Every stage** fills tables of its own with fitting records. -/
theorem fills_work (kind : StageKind) (h : Yields now (kind.work sources) ids tx report ids' tx') :
    Fills tx.work.table kind.tables tx'.work.table := by
  cases kind with
  | courses => exact fills_importCourses h
  | requisites => exact fills_importRequisites h
  | profRenames => exact fills_importRenames h
  | profs => exact fills_importProfs h
  | sections => exact fills_importSections h
  | users => exact fills_importUsers h
  | reviews => exact fills_importReviews h
  | histories => exact fills_importHistories h
  | schedules => exact fills_importSchedules h

/-- Of the rows made from some users, none of a password is of the user of an account. -/
theorem ne_of_secrets {users : List (LegacyUser × Int)} (hnodup : (users.map Prod.snd).Nodup)
    (lastId lastId' : Nat) {password account : Row}
    (hpassword : password ∈ numbered lastId (passwordLayout.entries (passwordRows users)))
    (haccount : account ∈ numbered lastId' (facebookLayout.entries (facebookRows users))) :
    password.lookup "user_id" ≠ account.lookup "user_id" := by
  obtain ⟨record, hrecord, hisRow⟩ := Memory.isRowOf_of_mem_numbered hpassword
  obtain ⟨other, hother, hisOther⟩ := Memory.isRowOf_of_mem_numbered haccount
  have hne := ne_of_credentials hnodup hrecord hother
  have hcell : password.lookup "user_id" = some (.bigint record.user) :=
    lookup_of_isRowOf passwordLayout_wellShaped hisRow rfl
  have hcell' : account.lookup "user_id" = some (.bigint other.user) :=
    lookup_of_isRowOf facebookLayout_wellShaped hisOther rfl
  rw [hcell, hcell']
  simpa using hne

theorem exclusive_importUsers
    (hempty : ∀ name ∈ StageKind.users.tables, (tx.work.table name).rows = [])
    (h : Yields now (importUsers sources) ids tx report ids' tx') : Exclusive tx'.work.table := by
  obtain ⟨users, -, -, -, -, -, -, -, rfl⟩ := (yields_importUsers now).1 h
  have hpasswords := hempty "secret.user_email" (by simp [StageKind.tables])
  have haccounts := hempty "secret.user_fb" (by simp [StageKind.tables])
  rw [Memory.table_store_toRows, Memory.table_store_toRows, Memory.table_store_toRows]
  intro password hpassword account haccount
  -- the two tables hold nothing but what the stage has just written
  refine ne_of_secrets (nodup_rows_zip users (tx.work.table userLayout.table).lastId)
    (tx.work.table passwordLayout.table).lastId (tx.work.table facebookLayout.table).lastId ?_ ?_
  · simpa [Tables.add, userLayout, passwordLayout, facebookLayout, Memory.Table.extend, hpasswords]
      using hpassword
  · simpa [Tables.add, userLayout, passwordLayout, facebookLayout, Memory.Table.extend, haccounts]
      using haccount

/-- **Every stage** keeps the tables unique if there is nothing in its own yet. -/
theorem unique_work (kind : StageKind) (h : Unique tx.work.table)
    (hempty : ∀ name ∈ kind.tables, (tx.work.table name).rows = [])
    (hyields : Yields now (kind.work sources) ids tx report ids' tx') : Unique tx'.work.table := by
  have hfills := fills_work kind hyields
  have hnodup : kind.tables.Nodup := by cases kind <;> decide
  refine ⟨h.toOrderly.fills hfills hnodup hempty, ?_⟩
  by_cases husers : kind = .users
  · subst husers
    exact exclusive_importUsers hempty hyields
  · have hemail : "secret.user_email" ∉ kind.tables := by cases kind <;> simp_all [StageKind.tables]
    have hfb : "secret.user_fb" ∉ kind.tables := by cases kind <;> simp_all [StageKind.tables]
    rw [Exclusive, hfills.untouched hemail, hfills.untouched hfb]
    exact h.exclusive

/-! ## Runs -/

theorem state_runFrom_cons {ω τ : Type} (warehouse : Warehouse ω τ) (stage : Stage)
    (rest : List Stage) (ids : IdMap) (w : ω) :
    (runFrom warehouse ids w (stage :: rest)).2 =
      match warehouse.transact .readWrite stage.work ids w with
      | (.error _, _, w) => w
      | (.ok _, ids, w) => (runFrom warehouse ids w rest).2 := by
  simp only [runFrom]
  rcases warehouse.transact .readWrite stage.work ids w with ⟨cause | report, ids, w⟩
  · rfl
  · rcases hrest : runFrom warehouse ids w rest with ⟨cause | reports, after⟩ <;> simp only [hrest]

theorem unique_runFrom (now : Time.Instant) (kinds : List StageKind) {w : State}
    (hnodup : (kinds.flatMap StageKind.tables).Nodup) (h : Unique w.table)
    (hempty : ∀ name ∈ kinds.flatMap StageKind.tables, (w.table name).rows = []) :
    Unique (runFrom (Memory.warehouse now) ids w (kinds.map (StageKind.stage sources))).2.table := by
  induction kinds generalizing ids w with
  | nil => exact h
  | cons kind rest ih =>
    rw [List.flatMap_cons] at hnodup hempty
    obtain ⟨-, hrest, hdisjoint⟩ := List.nodup_append.1 hnodup
    rw [List.map_cons, state_runFrom_cons]
    rcases Memory.transact_cases now .readWrite (kind.stage sources).work ids w with
      ⟨cause, ids', hfail⟩ | ⟨report, ids', tx, hyields, hok, htables⟩
    · rw [hfail]
      exact h
    · rw [hok]
      refine ih hrest ?_ fun name hname => ?_
      · rw [htables]
        exact unique_work kind h (fun name hname => hempty name (List.mem_append_left _ hname))
          hyields
      · -- no other stage writes to the tables of a later one
        have hother : name ∉ kind.tables := fun hmem => hdisjoint name hmem name hname rfl
        rw [htables, (fills_work kind hyields).untouched hother]
        exact hempty name (List.mem_append_right _ hname)

end

/-- No two selected stages write to the same table, and none of them runs twice. -/
theorem nodup_tables_selectStages (selected : Option (List StageKind)) :
    ((selectStages selected).flatMap StageKind.tables).Nodup := by
  have hall : (StageKind.all.flatMap StageKind.tables).Nodup := by decide
  cases selected with
  | none => exact hall
  | some kinds => exact (List.filter_sublist.flatMap StageKind.tables).nodup hall

/-- **Rows come once**: whatever the legacy data, the selected stages, the size of the batches and
the tables that refuse to be written, and whether the run succeeds or fails. -/
theorem unique_run (now : Time.Instant) (sources : Sources) (selected : Option (List StageKind))
    (start : State) (hempty : ∀ name, (start.table name).rows = []) :
    Unique (run (Memory.warehouse now)
      ((selectStages selected).map (StageKind.stage sources)) start).2.table :=
  unique_runFrom now (selectStages selected) (nodup_tables_selectStages selected)
    (unique_of_empty hempty) fun name _ => hempty name

/-- A course that names itself and another one twice, and a user who has a password besides an
account of another site and who says everything twice. -/
def repetitive : Sources where
  legacy := Legacy.Store.ofData
    [("course", [.object [("_id", .text "cs135"), ("prereqs", .text "CS135 or MATH135"),
        ("coreqs", .text "MATH135")], .object [("_id", .text "math135")]]),
      ("user", [.object [("_id", .text "ada"), ("fbid", .text "1815"), ("email", .text "a@b.c"),
        ("password", .text (String.ofList (List.replicate 60 'x')))]]),
      ("user_course", ["r1", "r2"].map fun id => .object [("_id", .text id),
        ("course_id", .text "cs135"), ("course_review", .object [("comment", .text "Fun.")]),
        ("term_id", .text "2017_09"), ("user_id", .text "ada")])] []
  batchSize := 1
  secret _ := "code"

theorem unique_run_of_repetitive :
    let kinds := [StageKind.histories, .reviews, .users, .requisites, .courses]
    let after := (run (Memory.warehouse ⟨0, 0⟩)
      ((selectStages (some kinds)).map (StageKind.stage repetitive)) {}).2.table
    (∀ name, (({} : State).table name).rows = []) ∧
    (["course", "course_prerequisite", "secret.user_email", "secret.user_fb", "review",
      "user_course_taken"].map fun name => (after name).rows.length) = [2, 1, 0, 1, 1, 1] ∧
    Unique after := by
  intro kinds after
  have hempty : ∀ name, (({} : State).table name).rows = [] := fun _ => rfl
  exact ⟨hempty, by decide +kernel, unique_run ⟨0, 0⟩ repetitive (some kinds) {} hempty⟩

end Registrar.Import
