import Registrar.Import.Stage
import Registrar.Import.Term
import Registrar.Text.Blank
/-!
# Sections and their meetings

A section is known by its class number within its term. It must belong to a known course; a
meeting may have a professor that nobody knows, who is then left out. The dates of a meeting are
its own if it has both and those of its term if not.
-/
namespace Registrar.Import

open Json (Decoder Schema Mismatch)

/-! ## Class numbers -/

/-- A class number as documents hold it (`section::ClassNumber`). -/
inductive ClassNumber
  | number (n : Int)
  | text (s : String)
  deriving DecidableEq, Repr

namespace ClassNumber

def decoder : Decoder ClassNumber
  | .int n => if n ≤ Json.greatestSigned then .ok (number n) else .error (.noVariant "ClassNumber")
  | .text s => .ok (text s)
  | _ => .error (.noVariant "ClassNumber")

/-- How a message shows a class number that cannot be read. -/
def shown : ClassNumber → String
  | number n => s!"Int({Number.shown n})"
  | text s => s!"Text({Text.quoted s})"

/-- The number, which 32 bits must hold. -/
def value? : ClassNumber → Option Int
  | number n => if -2147483648 ≤ n ∧ n ≤ 2147483647 then some n else none
  | text s => (Number.readInt32 (Text.trim s.toList)).toOption

/-- The number of a class that a document of a collection names (`ClassNumber::parse`). -/
def require (collection : String) (c : ClassNumber) : Except Failure Int :=
  match c.value? with
  | some n => .ok n
  | none => .error (.legacy collection s!"bad class number {c.shown}")

end ClassNumber

/-! ## Documents -/

/-- A meeting of a section of the legacy store (`section::LegacyMeeting`). -/
structure LegacyMeeting where
  days : List String
  isCancelled : Bool
  isClosed : Bool
  isTba : Bool
  startDate : Option Time.Instant
  endDate : Option Time.Instant
  startSeconds : Option Int
  endSeconds : Option Int
  profId : Option String
  building : Option String
  room : Option String
  deriving Repr

def LegacyMeeting.decoder : Decoder LegacyMeeting :=
  Schema.decoder "LegacyMeeting" <| LegacyMeeting.mk
    <$> Schema.withDefault "days" (Decoder.list Decoder.text) []
    <*> Schema.withDefault "is_cancelled" Decoder.bool false
    <*> Schema.withDefault "is_closed" Decoder.bool false
    <*> Schema.withDefault "is_tba" Decoder.bool false
    <*> Schema.optional "start_date" Decoder.instant
    <*> Schema.optional "end_date" Decoder.instant
    <*> Schema.optional "start_seconds" Decoder.int32
    <*> Schema.optional "end_seconds" Decoder.int32
    <*> Schema.optional "prof_id" Decoder.text
    <*> Schema.optional "building" Decoder.text
    <*> Schema.optional "room" Decoder.text

/-- A section of the legacy store (`section::LegacySection`). -/
structure LegacySection where
  courseId : String
  campus : String
  classNumber : ClassNumber
  sectionType : String
  sectionNumber : String
  enrollmentCapacity : Int
  enrollmentTotal : Int
  termId : String
  meetings : List LegacyMeeting
  deriving Repr

def LegacySection.decoder : Decoder LegacySection :=
  Schema.decoder "LegacySection" <| LegacySection.mk
    <$> Schema.required "course_id" Decoder.text
    <*> Schema.withDefault "campus" Decoder.text ""
    <*> Schema.required "class_num" ClassNumber.decoder
    <*> Schema.withDefault "section_type" Decoder.text ""
    <*> Schema.withDefault "section_num" Decoder.text ""
    <*> Schema.withDefault "enrollment_capacity" Decoder.int32 0
    <*> Schema.withDefault "enrollment_total" Decoder.int32 0
    <*> Schema.required "term_id" Decoder.text
    <*> Schema.withDefault "meetings" (Decoder.list LegacyMeeting.decoder) []

/-- The collection of sections (`section::COLLECTION`). -/
def sectionCollection : String := "section"

/-! ## Rows -/

/-- A row of a section (`section::SectionRow`). -/
structure SectionRow where
  classNumber : Int
  course : Int
  name : String
  campus : String
  term : Int
  enrollmentCapacity : Int
  enrollmentTotal : Int
  deriving DecidableEq, Repr

def sectionLayout : Sql.Layout SectionRow where
  table := "course_section"
  columns := ["class_number", "course_id", "section", "campus", "term", "enrollment_capacity",
    "enrollment_total"]
  values row :=
    [.integer row.classNumber, .bigint row.course, .text row.name, .text row.campus,
      .integer row.term, .integer row.enrollmentCapacity, .integer row.enrollmentTotal]

/-- What later stages call the section of a row. -/
def SectionRow.legacyId (row : SectionRow) : LegacyId := .classInTerm row.classNumber row.term

/-- The row of a section. -/
def LegacySection.row (ids : IdMap) (s : LegacySection) : Except Failure SectionRow := do
  let classNumber ← s.classNumber.require sectionCollection
  let course ← ids.require .course (.key s.courseId) "course_section"
  let term ← Term.require sectionCollection s.termId
  return {
    classNumber, course, term
    name := s.sectionType ++ " " ++ s.sectionNumber
    campus := s.campus
    enrollmentCapacity := s.enrollmentCapacity
    enrollmentTotal := s.enrollmentTotal }

/-- A row of a meeting (`section::MeetingRow`). -/
structure MeetingRow where
  sectionId : Int
  prof : Option Int
  first : Option Time.Date
  last : Option Time.Date
  startSeconds : Option Int
  endSeconds : Option Int
  location : Option String
  days : List String
  isCancelled : Bool
  isClosed : Bool
  isTba : Bool
  deriving DecidableEq, Repr

def meetingLayout : Sql.Layout MeetingRow where
  table := "section_meeting"
  columns := ["section_id", "prof_id", "start_date", "end_date", "start_seconds", "end_seconds",
    "location", "days", "is_cancelled", "is_closed", "is_tba"]
  values row :=
    [.bigint row.sectionId, .ofOption .bigint .bigint row.prof, .ofOption .date .date row.first,
      .ofOption .date .date row.last, .ofOption .integer .integer row.startSeconds,
      .ofOption .integer .integer row.endSeconds, .ofOption .text .text row.location,
      .textArray row.days, .bool row.isCancelled, .bool row.isClosed, .bool row.isTba]

/-- The first and last day of a meeting in a term. -/
def LegacyMeeting.timeframe (term : Warehouse.Timeframe) (m : LegacyMeeting) :
    Warehouse.Timeframe :=
  match m.startDate, m.endDate with
  | some first, some last => ⟨some first.date, some last.date⟩
  | _, _ => term

/-- Where a meeting is: a building and a room, or nothing. -/
def LegacyMeeting.location (m : LegacyMeeting) : Option String :=
  match m.building, m.room with
  | some building, some room => some (building ++ " " ++ room)
  | _, _ => none

/-- The row of a meeting of a section (`section::convert_meeting`). -/
def LegacyMeeting.row (ids : IdMap) (sectionId : Int) (term : Warehouse.Timeframe)
    (m : LegacyMeeting) : MeetingRow :=
  let timeframe := m.timeframe term
  { sectionId
    prof := m.profId.bind fun prof => ids.get? .prof (.key prof)
    first := timeframe.first
    last := timeframe.last
    startSeconds := m.startSeconds
    endSeconds := m.endSeconds
    location := m.location
    days := m.days
    isCancelled := m.isCancelled
    isClosed := m.isClosed
    isTba := m.isTba }

/-- The dates of a term; the later of two entries counts. -/
def termFrame (terms : List (Int × Warehouse.Timeframe)) (term : Int) : Warehouse.Timeframe :=
  (terms.reverse.lookup term).getD {}

/-- The rows of the meetings of some sections, each with its row and id. -/
def meetingRows (ids : IdMap) (terms : List (Int × Warehouse.Timeframe))
    (sections : List ((LegacySection × SectionRow) × Int)) : List MeetingRow :=
  sections.flatMap fun ((s, row), id) =>
    s.meetings.map fun meeting => meeting.row ids id (termFrame terms row.term)

/-- Imports the sections and their meetings (`SectionStage::run`). -/
def importSections (sources : Sources) : Work Report := do
  let sections ← Task.lift (Legacy.load sources.legacy sectionCollection LegacySection.decoder)
  let terms ← Task.ask .termDates
  let ids ← Task.get
  let rows ← Task.lift (sections.mapM (LegacySection.row ids))
  let sectionIds ← Work.insert sources.batchSize sectionLayout rows
  Work.registerAll .courseSection ((rows.map SectionRow.legacyId).zip sectionIds)
  let meetings := meetingRows ids terms ((sections.zip rows).zip sectionIds)
  let count ← Work.copy sources.batchSize meetingLayout meetings
  return ⟨.sections, [⟨"course_section", sectionIds.length⟩, ⟨"section_meeting", count⟩]⟩

end Registrar.Import
