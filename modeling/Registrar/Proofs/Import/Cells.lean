import Registrar.Proofs.Import.Stages
/-!
# What rows hold

A layout keeps the columns of a table apart from the values of a record. What the row of a record
holds is said here with each value under its column (`Memory.HasCells`), for every kind of record in
a list of its own, and the layouts are shown to agree with these lists (`Sql.Layout.Writes`).
-/
namespace Registrar

/-! ## Cells -/

namespace Memory

variable {ρ : Type}

/-- The row is that of a record, whatever its id. -/
def IsRowOf (layout : Sql.Layout ρ) (record : ρ) (row : Row) : Prop :=
  ∃ id, row = Memory.row layout.columns (layout.values record) id

/-- A row is its columns beside its values, with the id behind. -/
theorem row_eq {columns : List String} (hdistinct : columns.Nodup) (hid : "id" ∉ columns)
    {values : List Sql.Value} (hlength : values.length = columns.length) (id : Nat) :
    row columns values id = columns.zip values ++ [("id", .bigint id)] := by
  have hkeys : (columns.zip values).map Prod.fst = columns :=
    List.map_fst_zip (Nat.le_of_eq hlength.symm)
  have hcells : (columns.zip values).foldl (fun row cell => Keyed.put cell.1 cell.2 row) [] =
      columns.zip values :=
    Keyed.foldl_put_of_nodup _ (by rwa [List.nil_append, hkeys])
  exact (congrArg (Keyed.putNew "id" _) hcells).trans
    (Keyed.putNew_of_notMem _ (by rwa [hkeys]))

/-- The row has the cells, each value under its own column, besides them an id and nothing else. -/
structure HasCells (cells : List (String × Sql.Value)) (row : Row) : Prop where
  cell : ∀ cell ∈ cells, row.lookup cell.1 = some cell.2
  columns : row.map Prod.fst = cells.map Prod.fst ++ ["id"]

/-- The value of a cell that may be empty. -/
def orNull {α : Type} (kind : Sql.Kind) (make : α → Sql.Value) : Option α → Sql.Value
  | none => .null kind
  | some a => make a

theorem orNull_eq {α : Type} (kind : Sql.Kind) (make : α → Sql.Value) (o : Option α) :
    orNull kind make o = .ofOption kind make o := by
  cases o <;> rfl

namespace HasCells

variable {cells cells' : List (String × Sql.Value)} {row : Row}

theorem lookup (h : HasCells cells row) {column : String} {value : Sql.Value}
    (hcell : cells.lookup column = some value) : row.lookup column = some value :=
  h.cell (column, value) (mem_of_lookup_eq_some hcell)

/-- A row has no other cells than those that it has. -/
theorem cells_eq (h : HasCells cells row) (h' : HasCells cells' row) : cells = cells' := by
  have hkeys : cells.map Prod.fst = cells'.map Prod.fst :=
    List.append_cancel_right (h.columns.symm.trans h'.columns)
  have hlength : cells.length = cells'.length := by
    simpa using congrArg List.length hkeys
  refine List.ext_getElem hlength fun i hi hi' => ?_
  have hkey : cells[i].1 = cells'[i].1 := by
    have hkeyAt := congrArg (fun keys => keys[i]?) hkeys
    simpa [hi, hi'] using hkeyAt
  have hvalue := h.cell _ (List.getElem_mem hi)
  rw [hkey, h'.cell _ (List.getElem_mem hi')] at hvalue
  exact Prod.ext hkey (Option.some.inj hvalue).symm

end HasCells

end Memory

namespace Sql.Layout

open Memory (Row HasCells IsRowOf numbered)

variable {ρ : Type} {layout : Layout ρ} {table : String} {cells : ρ → List (String × Value)}

/-- The layout writes records to the table, with the cells beside them. -/
structure Writes (layout : Layout ρ) (table : String) (cells : ρ → List (String × Value)) :
    Prop where
  shape : layout.WellShaped
  table_eq : layout.table = table
  cells_eq : ∀ record, layout.columns.zip (layout.values record) = cells record

namespace Writes

theorem hasCells (h : layout.Writes table cells) {record : ρ} {row : Row}
    (hrow : IsRowOf layout record row) : HasCells (cells record) row := by
  obtain ⟨id, rfl⟩ := hrow
  have hlength := h.shape.values record
  have hkeys : (cells record).map Prod.fst = layout.columns := by
    rw [← h.cells_eq, List.map_fst_zip (Nat.le_of_eq hlength.symm)]
  refine ⟨fun cell hcell => ?_, ?_⟩
  · refine Memory.lookup_row h.shape.distinct ?_ id
    rw [h.cells_eq, lookup_eq_some_iff_mem (by rw [hkeys]; exact h.shape.distinct)]
    exact hcell
  · rw [Memory.row_eq h.shape.distinct h.shape.withoutId hlength, List.map_append, h.cells_eq]
    rfl

end Writes

end Sql.Layout

namespace Memory

variable {ρ : Type}

/-- Rows stand beside the records that they are of. -/
theorem forall₂_numbered (layout : Sql.Layout ρ) (records : List ρ) (lastId : Nat) :
    List.Forall₂ (IsRowOf layout) records (numbered lastId (layout.entries records)) := by
  refine List.forall₂_iff_get.2 ⟨by simp [Sql.Layout.entries], fun i hi hrow => ?_⟩
  exact ⟨lastId + i + 1, by simp [numbered, Sql.Layout.entries]⟩

end Memory

/-! ## Records -/

namespace Import

open Memory (orNull)

def Prerequisite.cells (edge : Prerequisite) : List (String × Sql.Value) :=
  [("course_id", .bigint edge.course), ("prerequisite_id", .bigint edge.prerequisite),
    ("is_corequisite", .bool edge.isCorequisite)]

def Antirequisite.cells (edge : Antirequisite) : List (String × Sql.Value) :=
  [("course_id", .bigint edge.course), ("antirequisite_id", .bigint edge.antirequisite)]

def Rename.cells (rename : Rename) : List (String × Sql.Value) :=
  [("old_code", .text rename.oldCode), ("old_name", .text rename.oldName),
    ("new_code", .text rename.newCode), ("new_name", .text rename.newName),
    ("delete", .bool rename.delete)]

def ProfGroup.cells (group : ProfGroup) : List (String × Sql.Value) :=
  [("name", .text group.name), ("code", .text group.code)]

def SectionRow.cells (row : SectionRow) : List (String × Sql.Value) :=
  [("class_number", .integer row.classNumber), ("course_id", .bigint row.course),
    ("section", .text row.name), ("campus", .text row.campus), ("term", .integer row.term),
    ("enrollment_capacity", .integer row.enrollmentCapacity),
    ("enrollment_total", .integer row.enrollmentTotal)]

def MeetingRow.cells (row : MeetingRow) : List (String × Sql.Value) :=
  [("section_id", .bigint row.sectionId), ("prof_id", orNull .bigint .bigint row.prof),
    ("start_date", orNull .date .date row.first), ("end_date", orNull .date .date row.last),
    ("start_seconds", orNull .integer .integer row.startSeconds),
    ("end_seconds", orNull .integer .integer row.endSeconds),
    ("location", orNull .text .text row.location), ("days", .textArray row.days),
    ("is_cancelled", .bool row.isCancelled), ("is_closed", .bool row.isClosed),
    ("is_tba", .bool row.isTba)]

def LegacyUser.cells (secret : String) (user : LegacyUser) : List (String × Sql.Value) :=
  [("secret_id", .text secret), ("first_name", .text (Text.trimmed user.firstName)),
    ("last_name", .text (Text.trimmed user.lastName)),
    ("program", orNull .text .text (user.programName.bind cleanProgram)),
    ("email", orNull .text .text user.email),
    ("join_source", .text (if user.facebookId.isSome then "facebook" else "email"))]

def PasswordRow.cells (row : PasswordRow) : List (String × Sql.Value) :=
  [("user_id", .bigint row.user), ("password_hash", .text row.hash)]

def FacebookRow.cells (row : FacebookRow) : List (String × Sql.Value) :=
  [("user_id", .bigint row.user), ("fb_id", .text row.facebookId)]

def ReviewRow.cells (row : ReviewRow) : List (String × Sql.Value) :=
  [("course_id", .bigint row.course), ("user_id", .bigint row.user),
    ("prof_id", orNull .bigint .bigint row.prof), ("liked", orNull .smallint .smallint row.liked),
    ("course_easy", orNull .smallint .smallint row.courseEasy),
    ("course_useful", orNull .smallint .smallint row.courseUseful),
    ("course_comment", orNull .text .text row.courseComment),
    ("prof_clear", orNull .smallint .smallint row.profClear),
    ("prof_engaging", orNull .smallint .smallint row.profEngaging),
    ("prof_comment", orNull .text .text row.profComment), ("public", .bool row.isPublic),
    ("created_at", orNull .timestamp .timestamp row.createdAt),
    ("updated_at", orNull .timestamp .timestamp row.updatedAt)]

def UpvoteRow.cells (row : UpvoteRow) : List (String × Sql.Value) :=
  [("review_id", .bigint row.review), ("user_id", .null .bigint)]

def ShortlistRow.cells (row : ShortlistRow) : List (String × Sql.Value) :=
  [("course_id", .bigint row.course), ("user_id", .bigint row.user)]

def TakenRow.cells (row : TakenRow) : List (String × Sql.Value) :=
  [("course_id", .bigint row.course), ("user_id", .bigint row.user),
    ("term_id", .integer row.term), ("level", orNull .text .text row.level)]

def ScheduleRow.cells (row : ScheduleRow) : List (String × Sql.Value) :=
  [("user_id", .bigint row.user), ("section_id", .bigint row.sectionId)]

/-! ## Layouts -/

theorem prerequisiteLayout_writes :
    prerequisiteLayout.Writes "course_prerequisite" Prerequisite.cells :=
  ⟨prerequisiteLayout_wellShaped, rfl, fun _ => rfl⟩

theorem antirequisiteLayout_writes :
    antirequisiteLayout.Writes "course_antirequisite" Antirequisite.cells :=
  ⟨antirequisiteLayout_wellShaped, rfl, fun _ => rfl⟩

theorem renameLayout_writes : Rename.layout.Writes "prof_rename" Rename.cells :=
  ⟨renameLayout_wellShaped, rfl, fun _ => rfl⟩

theorem profLayout_writes : profLayout.Writes "prof" ProfGroup.cells :=
  ⟨profLayout_wellShaped, rfl, fun _ => rfl⟩

theorem sectionLayout_writes : sectionLayout.Writes "course_section" SectionRow.cells :=
  ⟨sectionLayout_wellShaped, rfl, fun _ => rfl⟩

theorem meetingLayout_writes : meetingLayout.Writes "section_meeting" MeetingRow.cells :=
  ⟨meetingLayout_wellShaped, rfl, fun _ => by simp only [MeetingRow.cells, Memory.orNull_eq]; rfl⟩

/-- Users with an account of another site join from there, whatever else they have. -/
theorem LegacyUser.joinSource_eq (user : LegacyUser) :
    user.joinSource = if user.facebookId.isSome then "facebook" else "email" := by
  unfold joinSource credential?
  cases user.facebookId with
  | some facebookId => rfl
  | none =>
    rcases user.email with _ | email <;> rcases user.password with _ | hash
    all_goals dsimp only
    all_goals split <;> simp_all

theorem userLayout_writes :
    userLayout.Writes "user" fun user => user.1.cells user.2 :=
  ⟨userLayout_wellShaped, rfl, fun user => by
    simp only [LegacyUser.cells, ← user.1.joinSource_eq, Memory.orNull_eq]; rfl⟩

theorem passwordLayout_writes : passwordLayout.Writes "secret.user_email" PasswordRow.cells :=
  ⟨passwordLayout_wellShaped, rfl, fun _ => rfl⟩

theorem facebookLayout_writes : facebookLayout.Writes "secret.user_fb" FacebookRow.cells :=
  ⟨facebookLayout_wellShaped, rfl, fun _ => rfl⟩

theorem reviewLayout_writes : reviewLayout.Writes "review" ReviewRow.cells :=
  ⟨reviewLayout_wellShaped, rfl, fun _ => by simp only [ReviewRow.cells, Memory.orNull_eq]; rfl⟩

theorem upvoteLayout_writes : upvoteLayout.Writes "course_review_upvote" UpvoteRow.cells :=
  ⟨upvoteLayout_wellShaped, rfl, fun _ => rfl⟩

theorem shortlistLayout_writes : shortlistLayout.Writes "user_shortlist" ShortlistRow.cells :=
  ⟨shortlistLayout_wellShaped, rfl, fun _ => rfl⟩

theorem takenLayout_writes : takenLayout.Writes "user_course_taken" TakenRow.cells :=
  ⟨takenLayout_wellShaped, rfl, fun _ => by simp only [TakenRow.cells, Memory.orNull_eq]; rfl⟩

theorem scheduleLayout_writes : scheduleLayout.Writes "user_schedule" ScheduleRow.cells :=
  ⟨scheduleLayout_wellShaped, rfl, fun _ => rfl⟩

end Import

end Registrar
