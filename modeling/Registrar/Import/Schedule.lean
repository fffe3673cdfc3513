import Registrar.Import.Section
/-!
# Schedules

A user attends sections, each once.
-/
namespace Registrar.Import

open Json (Decoder Schema)

/-- A section that a user attends, in the legacy store (`schedule::LegacyScheduleItem`). -/
structure LegacyScheduleItem where
  userId : String
  classNumber : ClassNumber
  termId : String
  deriving Repr

def LegacyScheduleItem.decoder : Decoder LegacyScheduleItem :=
  Schema.decoder "LegacyScheduleItem" <| LegacyScheduleItem.mk
    <$> Schema.required "user_id" Decoder.text
    <*> Schema.required "class_num" ClassNumber.decoder
    <*> Schema.required "term_id" Decoder.text

/-- The collection of schedules (`schedule::COLLECTION`). -/
def scheduleCollection : String := "user_schedule_item"

/-- A row of a schedule (`schedule::ScheduleRow`). -/
structure ScheduleRow where
  user : Int
  sectionId : Int
  deriving DecidableEq, Repr

def scheduleLayout : Sql.Layout ScheduleRow where
  table := "user_schedule"
  columns := ["user_id", "section_id"]
  values row := [.bigint row.user, .bigint row.sectionId]

/-- The row of a schedule's item. -/
def LegacyScheduleItem.row (ids : IdMap) (item : LegacyScheduleItem) :
    Except Failure ScheduleRow := do
  let user ← ids.require .user (.key item.userId) "user_schedule"
  let classNumber ← item.classNumber.require scheduleCollection
  let term ← Term.require scheduleCollection item.termId
  let sectionId ← ids.require .courseSection (.classInTerm classNumber term) "user_schedule"
  return ⟨user, sectionId⟩

/-- The rows of some items, added to those before; a row that is there is not added again. -/
def collectSchedule (ids : IdMap) (before : List ScheduleRow) :
    List LegacyScheduleItem → Except Failure (List ScheduleRow)
  | [] => .ok before
  | item :: rest => do
    let row ← item.row ids
    collectSchedule ids (if row ∈ before then before else before ++ [row]) rest

/-- Imports the schedules (`ScheduleStage::run`). -/
def importSchedules (sources : Sources) : Work Report := do
  let items ← Task.lift
    (Legacy.load sources.legacy scheduleCollection LegacyScheduleItem.decoder)
  let rows ← Task.lift (collectSchedule (← Task.get) [] items)
  let count ← Work.copy sources.batchSize scheduleLayout rows
  return ⟨.schedules, [⟨"user_schedule", count⟩]⟩

end Registrar.Import
