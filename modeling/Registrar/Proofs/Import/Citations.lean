import Registrar.Import.Run
import Registrar.Proofs.Import.Cells
import Registrar.Proofs.Import.CourseCodes
/-!
# What rows refer to

A row of the warehouse refers to another one by its id, and means by it what became of some legacy
document. A `Citation` is such a reference with the name of the document, and it `Leads` to the
right row if the row with the id is what became of the document. A table whose rows refer to others
is a `Dependent`: it says which documents a record may come from, and what it cites then.

Tables are `Consistent` if rows have the ids that they were given one after another, if every column
of `references` holds the id of a row that is there, and if every row of a dependent table comes from
a document and cites what the document names.
-/
namespace Registrar.Memory

/-- There are more rows in every table than there were, or as many. -/
def Tables.Grows (tables tables' : Tables) : Prop :=
  ∀ name, ∀ row ∈ (tables name).rows, row ∈ (tables' name).rows

/-- The rows of every table have the ids from 1 on, in order. -/
def Tables.Numbered (tables : Tables) : Prop :=
  ∀ name, (tables name).lastId = (tables name).rows.length ∧
    ∀ (i : Nat) (row : Row), (tables name).rows[i]? = some row →
      row.lookup "id" = some (.bigint (i + 1))

end Registrar.Memory

namespace Registrar.Import

open Json (Decoder)
open Memory (HasCells Row Tables)

variable (sources : Sources)

/-! ## Documents and their rows -/

/-- A document of a collection. -/
def IsDocument {α : Type} (collection : String) (decoder : Decoder α) (doc : α) : Prop :=
  ∃ docs, Legacy.load sources.legacy collection decoder = .ok docs ∧ doc ∈ docs

/-- The table of a kind of document. -/
def Entity.table : Entity → String
  | course => "course"
  | prof => "prof"
  | courseSection => "course_section"
  | user => "user"
  | review => "review"

/-- The row is what became of a document. A course has the name as its code, and a section has its
class number and its term; the other rows are those of a record made from the document. -/
def Became : Entity → LegacyId → Row → Prop
  | .course, .key code, row => row.lookup "code" = some (.text code)
  | .courseSection, .classInTerm classNumber term, row =>
    row.lookup "class_number" = some (.integer classNumber) ∧
      row.lookup "term" = some (.integer term)
  | .user, .key key, row =>
    ∃ users, Legacy.load sources.legacy userCollection LegacyUser.decoder = .ok users ∧
      ∃ user ∈ users.zip ((List.range users.length).map sources.secret),
        user.1.id = key ∧ HasCells (user.1.cells user.2) row
  | .review, .key key, row =>
    ∃ doc, IsDocument sources userCourseCollection LegacyUserCourse.decoder doc ∧ doc.id = key ∧
      ∃ known course user, HasCells (doc.row known course user).cells row
  | .prof, .key key, row =>
    ∃ profs, Legacy.load sources.legacy profCollection LegacyProf.decoder = .ok profs ∧
      ∃ known, ∃ group ∈ groupProfs known profs, key ∈ group.legacyIds ∧
        HasCells group.cells row
  | _, _, _ => False

/-- A reference to a row, and the document that it means. -/
structure Citation where
  entity : Entity
  name : LegacyId
  row : Int
  deriving DecidableEq, Repr

/-- The row that the citation refers to is there, and it is what became of the document. -/
def Leads (tables : Tables) (c : Citation) : Prop :=
  ∃ row ∈ (tables c.entity.table).rows, row.lookup "id" = some (.bigint c.row) ∧
    Became sources c.entity c.name row

/-- The map has the row for the document. -/
def Citation.Registered (ids : IdMap) (c : Citation) : Prop :=
  ((c.entity, c.name), c.row) ∈ ids.entries

/-! ## Dependent tables -/

/-- A table whose rows refer to others. -/
structure Dependent where
  Record : Type
  table : String
  /-- What the row of a record holds. -/
  cells : Record → List (String × Sql.Value)
  /-- The record comes from some document, which names what the record cites. -/
  Cites : Record → List Citation → Prop

/-- The citation of a professor, if a document names one and the professor is known. -/
def profCitation : Option String → Option Int → List Citation
  | some key, some row => [⟨.prof, .key key, row⟩]
  | _, _ => []

def SectionRow.Cites (row : SectionRow) (citations : List Citation) : Prop :=
  ∃ doc, IsDocument sources sectionCollection LegacySection.decoder doc ∧
    (∃ known, doc.row known = .ok row) ∧
    citations = [⟨.course, .key doc.courseId, row.course⟩]

def SectionRow.dependent : Dependent :=
  ⟨SectionRow, "course_section", SectionRow.cells, SectionRow.Cites sources⟩

def MeetingRow.Cites (row : MeetingRow) (citations : List Citation) : Prop :=
  ∃ doc, IsDocument sources sectionCollection LegacySection.decoder doc ∧
    ∃ meeting ∈ doc.meetings, (∃ known frame, row = meeting.row known row.sectionId frame) ∧
    ∃ classNumber term, doc.classNumber.value? = some classNumber ∧
      Term.number? doc.termId = some term ∧
      citations = ⟨.courseSection, .classInTerm classNumber term, row.sectionId⟩ ::
        profCitation meeting.profId row.prof

def MeetingRow.dependent : Dependent :=
  ⟨MeetingRow, "section_meeting", MeetingRow.cells, MeetingRow.Cites sources⟩

def Prerequisite.Cites (edge : Prerequisite) (citations : List Citation) : Prop :=
  ∃ doc, IsDocument sources courseCollection LegacyCourse.decoder doc ∧
    ∃ text, (if edge.isCorequisite then doc.coreqs else doc.prereqs) = some text ∧
    ∃ codes, Matches text.toList codes ∧ ∃ code ∈ codes,
      citations = [⟨.course, .key doc.id, edge.course⟩,
        ⟨.course, .key (Text.lower (String.ofList code)), edge.prerequisite⟩]

def Prerequisite.dependent : Dependent :=
  ⟨Prerequisite, "course_prerequisite", Prerequisite.cells, Prerequisite.Cites sources⟩

def Antirequisite.Cites (edge : Antirequisite) (citations : List Citation) : Prop :=
  ∃ doc, IsDocument sources courseCollection LegacyCourse.decoder doc ∧
    ∃ text, doc.antireqs = some text ∧ ∃ codes, Matches text.toList codes ∧ ∃ code ∈ codes,
      citations = [⟨.course, .key doc.id, edge.course⟩,
        ⟨.course, .key (Text.lower (String.ofList code)), edge.antirequisite⟩]

def Antirequisite.dependent : Dependent :=
  ⟨Antirequisite, "course_antirequisite", Antirequisite.cells, Antirequisite.Cites sources⟩

def PasswordRow.Cites (row : PasswordRow) (citations : List Citation) : Prop :=
  ∃ doc, IsDocument sources userCollection LegacyUser.decoder doc ∧
    doc.credential? = some (.password row.hash) ∧ citations = [⟨.user, .key doc.id, row.user⟩]

def PasswordRow.dependent : Dependent :=
  ⟨PasswordRow, "secret.user_email", PasswordRow.cells, PasswordRow.Cites sources⟩

def FacebookRow.Cites (row : FacebookRow) (citations : List Citation) : Prop :=
  ∃ doc, IsDocument sources userCollection LegacyUser.decoder doc ∧
    doc.credential? = some (.facebook row.facebookId) ∧
    citations = [⟨.user, .key doc.id, row.user⟩]

def FacebookRow.dependent : Dependent :=
  ⟨FacebookRow, "secret.user_fb", FacebookRow.cells, FacebookRow.Cites sources⟩

def ReviewRow.Cites (row : ReviewRow) (citations : List Citation) : Prop :=
  ∃ doc, IsDocument sources userCourseCollection LegacyUserCourse.decoder doc ∧
    (∃ known, row = doc.row known row.course row.user) ∧
    citations = ⟨.course, .key doc.courseId, row.course⟩ :: ⟨.user, .key doc.userId, row.user⟩ ::
      profCitation (nonEmpty doc.profId) row.prof

def ReviewRow.dependent : Dependent :=
  ⟨ReviewRow, "review", ReviewRow.cells, ReviewRow.Cites sources⟩

def UpvoteRow.Cites (row : UpvoteRow) (citations : List Citation) : Prop :=
  ∃ doc, IsDocument sources userCourseCollection LegacyUserCourse.decoder doc ∧
    0 < doc.courseReview.votes ∧ citations = [⟨.review, .key doc.id, row.review⟩]

def UpvoteRow.dependent : Dependent :=
  ⟨UpvoteRow, "course_review_upvote", UpvoteRow.cells, UpvoteRow.Cites sources⟩

def ShortlistRow.Cites (row : ShortlistRow) (citations : List Citation) : Prop :=
  ∃ doc, IsDocument sources userCourseCollection LegacyUserCourse.decoder doc ∧
    doc.termId = Term.shortlist ∧
    citations = [⟨.course, .key doc.courseId, row.course⟩, ⟨.user, .key doc.userId, row.user⟩]

def ShortlistRow.dependent : Dependent :=
  ⟨ShortlistRow, "user_shortlist", ShortlistRow.cells, ShortlistRow.Cites sources⟩

def TakenRow.Cites (row : TakenRow) (citations : List Citation) : Prop :=
  ∃ doc, IsDocument sources userCourseCollection LegacyUserCourse.decoder doc ∧
    doc.termId ≠ Term.shortlist ∧ Term.number? doc.termId = some row.term ∧ doc.level = row.level ∧
    citations = [⟨.course, .key doc.courseId, row.course⟩, ⟨.user, .key doc.userId, row.user⟩]

def TakenRow.dependent : Dependent :=
  ⟨TakenRow, "user_course_taken", TakenRow.cells, TakenRow.Cites sources⟩

def ScheduleRow.Cites (row : ScheduleRow) (citations : List Citation) : Prop :=
  ∃ doc, IsDocument sources scheduleCollection LegacyScheduleItem.decoder doc ∧
    ∃ classNumber term, doc.classNumber.value? = some classNumber ∧
      Term.number? doc.termId = some term ∧
      citations = [⟨.user, .key doc.userId, row.user⟩,
        ⟨.courseSection, .classInTerm classNumber term, row.sectionId⟩]

def ScheduleRow.dependent : Dependent :=
  ⟨ScheduleRow, "user_schedule", ScheduleRow.cells, ScheduleRow.Cites sources⟩

/-- Every table whose rows refer to others. -/
def dependents : List Dependent := [
  SectionRow.dependent sources, MeetingRow.dependent sources, Prerequisite.dependent sources,
  Antirequisite.dependent sources, PasswordRow.dependent sources, FacebookRow.dependent sources,
  ReviewRow.dependent sources, UpvoteRow.dependent sources, ShortlistRow.dependent sources,
  TakenRow.dependent sources, ScheduleRow.dependent sources]

/-- The row comes from a document, and whatever it cites leads to the right row. -/
def Dependent.Accounts (tables : Tables) (d : Dependent) (row : Row) : Prop :=
  ∃ record citations, HasCells (d.cells record) row ∧ d.Cites record citations ∧
    ∀ c ∈ citations, Leads sources tables c

/-! ## References -/

/-- A column that holds ids of rows, or nothing if that is allowed. -/
structure Reference where
  table : String
  column : String
  target : Entity
  optional : Bool := false
  deriving DecidableEq, Repr

/-- The columns that refer to rows. -/
def references : List Reference := [
  { table := "course_section", column := "course_id", target := .course },
  { table := "course_prerequisite", column := "course_id", target := .course },
  { table := "course_prerequisite", column := "prerequisite_id", target := .course },
  { table := "course_antirequisite", column := "course_id", target := .course },
  { table := "course_antirequisite", column := "antirequisite_id", target := .course },
  { table := "review", column := "course_id", target := .course },
  { table := "user_shortlist", column := "course_id", target := .course },
  { table := "user_course_taken", column := "course_id", target := .course },
  { table := "section_meeting", column := "section_id", target := .courseSection },
  { table := "user_schedule", column := "section_id", target := .courseSection },
  { table := "review", column := "user_id", target := .user },
  { table := "user_shortlist", column := "user_id", target := .user },
  { table := "user_course_taken", column := "user_id", target := .user },
  { table := "user_schedule", column := "user_id", target := .user },
  { table := "secret.user_email", column := "user_id", target := .user },
  { table := "secret.user_fb", column := "user_id", target := .user },
  { table := "course_review_upvote", column := "review_id", target := .review },
  { table := "review", column := "prof_id", target := .prof, optional := true },
  { table := "section_meeting", column := "prof_id", target := .prof, optional := true }]

/-- Every row of the table refers to a row that is there. -/
def Reference.Holds (tables : Tables) (r : Reference) : Prop :=
  ∀ row ∈ (tables r.table).rows,
    (r.optional ∧ row.lookup r.column = some (.null .bigint)) ∨
    ∃ id, row.lookup r.column = some (.bigint id) ∧
      ∃ other ∈ (tables r.target.table).rows, other.lookup "id" = some (.bigint id)

/-- References lead to rows, and to the right ones. -/
structure Consistent (tables : Tables) : Prop where
  numbered : tables.Numbered
  references : ∀ r ∈ references, r.Holds tables
  right : ∀ d ∈ dependents sources, ∀ row ∈ (tables d.table).rows,
    d.Accounts sources tables row

end Registrar.Import
