import Registrar.Import.Run
import Registrar.Json.Decoder
import Registrar.Json.Writer
/-!
# Summaries of imports

What is said of an import that has succeeded: when it ran and how long, with which settings, and
how many rows every stage wrote to every table. A summary is written as a JSON document with its
fields in the order of their declaration, and read from one.
-/
namespace Registrar.Import

/-- A stage's report and how long the stage took. -/
structure StageSummary where
  report : Report
  seconds : Number.Double := .zero false
  deriving DecidableEq, Repr

/-- What is said of an import (`orchestrator::MigrationResult`). -/
structure Summary where
  runId : String
  status : String := "completed"
  seconds : Number.Double
  started : Time.Instant
  completed : Time.Instant
  /-- The digest of the settings. -/
  settingsHash : String
  stages : List StageSummary
  rowsWritten : Nat
  deriving DecidableEq, Repr

/-- The summary of an import with these reports. -/
def Summary.ofStages (runId settingsHash : String) (started completed : Time.Instant)
    (seconds : Number.Double) (stages : List StageSummary) : Summary where
  runId
  seconds
  started
  completed
  settingsHash
  stages
  rowsWritten := Import.rowsWritten (stages.map StageSummary.report)

/-! ## With a clock -/

/-- The seconds between two readings of a clock of nanoseconds. -/
def secondsBetween (start stop : Nat) : Number.Double :=
  .ofRatio false (stop - start) Time.nanosPerSecond

/-- Does stages one after another, as `runFrom` does, and reads a clock before and after each
(`Orchestrator::run`). -/
def runTimed {m : Type → Type} [Monad m] {ω τ : Type} (clock : m Nat) (warehouse : Warehouse ω τ)
    (ids : IdMap) (w : ω) : List Stage → m (Except Failure (List StageSummary) × ω)
  | [] => pure (.ok [], w)
  | stage :: rest => do
    let start ← clock
    match warehouse.transact .readWrite stage.work ids w with
    | (.error cause, _, w) => return (.error cause, w)
    | (.ok report, ids, w) =>
      let stop ← clock
      match ← runTimed clock warehouse ids w rest with
      | (.ok summaries, w) => return (.ok (⟨report, secondsBetween start stop⟩ :: summaries), w)
      | (.error cause, w) => return (.error cause, w)

/-- The clock changes nothing: the reports and the warehouse are those of `runFrom`. -/
theorem runTimed_eq {ω τ : Type} (clock : Id Nat) (warehouse : Warehouse ω τ) (ids : IdMap) (w : ω)
    (stages : List Stage) :
    let (result, after) := (runTimed (m := Id) clock warehouse ids w stages).run
    (result.map (List.map StageSummary.report), after) = runFrom warehouse ids w stages := by
  induction stages generalizing ids w with
  | nil => rfl
  | cons stage rest ih =>
    simp only [runTimed, runFrom]
    rcases h : warehouse.transact .readWrite stage.work ids w with ⟨_ | report, ids', w'⟩
    · rfl
    · have := ih ids' w'
      revert this
      simp only [Id.run, bind, pure]
      rcases runTimed (m := Id) clock warehouse ids' w' rest with ⟨_ | summaries, w''⟩ <;>
        intro this <;> simp only [Except.map] at this ⊢ <;> rw [← this]
      rfl

/-! ## As JSON -/

def TableCount.json (count : TableCount) : Json :=
  .object [("table", .text count.table), ("rows", .int count.rows)]

def StageSummary.json (summary : StageSummary) : Json :=
  .object [("stage", .text summary.report.stage.name),
    ("tables", .array (summary.report.tables.map TableCount.json)),
    ("duration_seconds", .float summary.seconds)]

def Summary.json (summary : Summary) : Json :=
  .object [("run_id", .text summary.runId), ("status", .text summary.status),
    ("duration_seconds", .float summary.seconds),
    ("started_at", .text (String.ofList summary.started.zuluText)),
    ("completed_at", .text (String.ofList summary.completed.zuluText)),
    ("config_hash", .text summary.settingsHash),
    ("stages", .array (summary.stages.map StageSummary.json)),
    ("rows_written", .int summary.rowsWritten)]

open Json Json.Decoder Json.Schema

def TableCount.decoder : Decoder TableCount :=
  Schema.decoder "TableCount" (TableCount.mk <$> required "table" text <*> required "rows" nat64)

def StageSummary.decoder : Decoder StageSummary :=
  Schema.decoder "StageReport"
    ((fun stage tables seconds => ⟨⟨stage, tables⟩, seconds⟩)
      <$> required "stage" (named (StageKind.all.map fun kind => (kind.name, kind)))
      <*> required "tables" (list TableCount.decoder)
      <*> withDefault "duration_seconds" double (.zero false))

/-- A summary as a JSON document has it. -/
def Summary.decoder : Decoder Summary :=
  Schema.decoder "MigrationResult"
    (Summary.mk
      <$> required "run_id" text
      <*> required "status" text
      <*> required "duration_seconds" double
      <*> required "started_at" instant
      <*> required "completed_at" instant
      <*> required "config_hash" text
      <*> required "stages" (list StageSummary.decoder)
      <*> required "rows_written" nat64)

end Registrar.Import
