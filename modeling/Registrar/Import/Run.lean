import Registrar.Import.Course
import Registrar.Import.Professor
import Registrar.Import.Review
import Registrar.Import.Schedule
import Registrar.Import.User
/-!
# Imports

An import does stages one after another, each in a transaction of its own, over one identifier
map. The first stage that fails ends the import; what the stages before it wrote stays.
-/
namespace Registrar.Import

/-- A stage and what it does (`migrate::Stage`). -/
structure Stage where
  kind : StageKind
  work : Work Report

/-- What the stage of a kind does. -/
def StageKind.work (sources : Sources) : StageKind → Work Report
  | courses => importCourses sources
  | requisites => importRequisites sources
  | profRenames => importRenames sources
  | profs => importProfs sources
  | sections => importSections sources
  | users => importUsers sources
  | reviews => importReviews sources
  | histories => importHistories sources
  | schedules => importSchedules sources

/-- The stage of a kind (`StageKind::stage`). -/
def StageKind.stage (sources : Sources) (kind : StageKind) : Stage := ⟨kind, kind.work sources⟩

/-- The selected stages in the order in which they may run, each once
(`MigrationConfig::selected_stages`); all of them where none are selected. -/
def selectStages : Option (List StageKind) → List StageKind
  | none => StageKind.all
  | some kinds => StageKind.all.filter fun kind => kind ∈ kinds

variable {ω τ : Type}

/-- Does stages one after another; the result is the report of each. -/
def runFrom (warehouse : Warehouse ω τ) (ids : IdMap) (w : ω) :
    List Stage → Except Failure (List Report) × ω
  | [] => (.ok [], w)
  | stage :: rest =>
    match warehouse.transact .readWrite stage.work ids w with
    | (.error cause, _, w) => (.error cause, w)
    | (.ok report, ids, w) =>
      match runFrom warehouse ids w rest with
      | (.ok reports, w) => (.ok (report :: reports), w)
      | (.error cause, w) => (.error cause, w)

/-- An import of its own, with an identifier map of its own (`Orchestrator::run`). -/
def run (warehouse : Warehouse ω τ) (stages : List Stage) (w : ω) :
    Except Failure (List Report) × ω :=
  runFrom warehouse {} w stages

/-- How many rows some stages wrote. -/
def rowsWritten (reports : List Report) : Nat := (reports.map Report.rows).foldr (· + ·) 0

end Registrar.Import
