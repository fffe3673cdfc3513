import Registrar.Import.Stage
import Registrar.Text.LetterCase
/-!
# Courses and their requisites

Courses are registered under their codes, which are in lower case. What a course requires or
excludes is free text; the course codes in it that name a known course become edges between
courses, each pair of courses once.
-/
namespace Registrar.Import

open Json (Decoder Schema)

/-- A course of the legacy store (`course::LegacyCourse`). -/
structure LegacyCourse where
  id : String
  name : String
  description : Option String
  prereqs : Option String
  coreqs : Option String
  antireqs : Option String
  deriving Repr

def LegacyCourse.decoder : Decoder LegacyCourse :=
  Schema.decoder "LegacyCourse" <| LegacyCourse.mk <$> Schema.required "_id" Decoder.text
    <*> Schema.withDefault "name" Decoder.text ""
    <*> Schema.optional "description" Decoder.text
    <*> Schema.optional "prereqs" Decoder.text
    <*> Schema.optional "coreqs" Decoder.text
    <*> Schema.optional "antireqs" Decoder.text

/-- The collection of courses (`course::COLLECTION`). -/
def courseCollection : String := "course"

/-- Courses as rows (`course::CourseRow`). -/
def courseLayout : Sql.Layout LegacyCourse where
  table := "course"
  columns := ["code", "name", "description", "prereqs", "coreqs", "antireqs"]
  values course :=
    [.text course.id, .text course.name, .ofOption .text .text course.description,
      .ofOption .text .text course.prereqs, .ofOption .text .text course.coreqs,
      .ofOption .text .text course.antireqs]

/-- Imports the courses (`CourseStage::run`). -/
def importCourses (sources : Sources) : Work Report := do
  let courses ← Task.lift (Legacy.load sources.legacy courseCollection LegacyCourse.decoder)
  let ids ← Work.insert sources.batchSize courseLayout courses
  Work.registerAll .course ((courses.map fun course => .key course.id).zip ids)
  return ⟨.courses, [⟨"course", ids.length⟩]⟩

/-! ## Course codes in free text -/

/-- The course code that a text starts with: two capitals or more, three digits or more, and any
capitals, each as many as there are (`course::COURSE_CODE_PATTERN`). -/
def codeAt? (s : List Char) : Option (List Char) :=
  let letters := s.takeWhile Char.isUpper
  let rest := s.dropWhile Char.isUpper
  let digits := rest.takeWhile Char.isDigit
  let after := (rest.dropWhile Char.isDigit).takeWhile Char.isUpper
  if 2 ≤ letters.length ∧ 3 ≤ digits.length then some (letters ++ digits ++ after) else none

/-- The course codes of a text from left to right, after `skip` characters that belong to the code
before. -/
def codesAfter (skip : Nat) : List Char → List (List Char)
  | [] => []
  | c :: rest =>
    match skip with
    | skip + 1 => codesAfter skip rest
    | 0 =>
      match codeAt? (c :: rest) with
      | some code => code :: codesAfter (code.length - 1) rest
      | none => codesAfter 0 rest

/-- The course codes of a text. -/
def courseCodes (s : String) : List String := (codesAfter 0 s.toList).map String.ofList

/-- The known courses that a text names, in order (`course::referenced_courses`). -/
def namedCourses (ids : IdMap) : Option String → List Int
  | none => []
  | some s => (courseCodes s).filterMap fun code => ids.get? .course (.key (Text.lower code))

/-! ## Edges -/

/-- A course that another one requires before it or along with it (`course::PrerequisiteRow`). -/
structure Prerequisite where
  course : Int
  prerequisite : Int
  isCorequisite : Bool
  deriving DecidableEq, Repr

/-- A course that another one excludes (`course::AntirequisiteRow`). -/
structure Antirequisite where
  course : Int
  antirequisite : Int
  deriving DecidableEq, Repr

def prerequisiteLayout : Sql.Layout Prerequisite where
  table := "course_prerequisite"
  columns := ["course_id", "prerequisite_id", "is_corequisite"]
  values edge := [.bigint edge.course, .bigint edge.prerequisite, .bool edge.isCorequisite]

def antirequisiteLayout : Sql.Layout Antirequisite where
  table := "course_antirequisite"
  columns := ["course_id", "antirequisite_id"]
  values edge := [.bigint edge.course, .bigint edge.antirequisite]

/-- The edges with one to a required course, unless it is there or leads from a course to
itself. -/
def addPrerequisite (edges : List Prerequisite) (edge : Prerequisite) : List Prerequisite :=
  if edge.prerequisite = edge.course ∨ edges.any fun other =>
      other.course == edge.course && other.prerequisite == edge.prerequisite then edges
  else edges ++ [edge]

/-- The edges with one to an excluded course, under the same conditions. -/
def addAntirequisite (edges : List Antirequisite) (edge : Antirequisite) : List Antirequisite :=
  if edge.antirequisite = edge.course ∨ edge ∈ edges then edges else edges ++ [edge]

/-- The edges of the courses, those of one course after those of another. -/
def requisites (ids : IdMap) : List LegacyCourse → List Prerequisite × List Antirequisite →
    Except Failure (List Prerequisite × List Antirequisite)
  | [], edges => .ok edges
  | course :: rest, (before, against) => do
    let id ← ids.require .course (.key course.id) "course_requisite"
    let required := ((namedCourses ids course.prereqs).map fun r => ⟨id, r, false⟩)
      ++ (namedCourses ids course.coreqs).map fun r => ⟨id, r, true⟩
    let excluded := (namedCourses ids course.antireqs).map fun r => ⟨id, r⟩
    requisites ids rest (required.foldl addPrerequisite before,
      excluded.foldl addAntirequisite against)

/-- Imports the edges between courses (`CourseRequisiteStage::run`). -/
def importRequisites (sources : Sources) : Work Report := do
  let courses ← Task.lift (Legacy.load sources.legacy courseCollection LegacyCourse.decoder)
  let (before, against) ← Task.lift (requisites (← Task.get) courses ([], []))
  let required ← Work.copy sources.batchSize prerequisiteLayout before
  let excluded ← Work.copy sources.batchSize antirequisiteLayout against
  return ⟨.requisites, [⟨"course_prerequisite", required⟩, ⟨"course_antirequisite", excluded⟩]⟩

end Registrar.Import
