import Registrar.CommandLine.Invocation
import Registrar.Import.Summary
import Registrar.Postgres.Warehouse
import Registrar.Settings.Reading
import Registrar.Settings.Tasks
import Registrar.Settings.Written
import Registrar.Warehouse.Memory
/-!
# Execution

Doing what an invocation asks. The result is what the program prints and the failure that it ends
with, if any. Files, the server, the clock and the names of runs are given from outside
(`Surroundings`).
-/
namespace Registrar.CommandLine

/-- What the program finds around it; `m` is where its effects happen. -/
structure Surroundings (m : Type → Type) (σ : Type) where
  disk : Legacy.Disk
  server : Postgres.Server σ
  serverState : σ
  /-- Nanoseconds from some moment on. -/
  clock : m Nat
  now : m Time.Instant
  newRunId : m String
  /-- A secret for the user at some place of the collection. -/
  secret : Nat → String

/-- What the program prints, and how it ends. -/
structure Outcome where
  printed : String := ""
  failure : Option Failure := none
  deriving DecidableEq, Repr

/-- The exit code of the program. -/
def Outcome.exitCode (outcome : Outcome) : Nat :=
  match outcome.failure with
  | none => 0
  | some failure => failure.exitCode

/-- The exit code where the arguments cannot be read. -/
def refusedCode : Nat := 2

/-! ## Settings -/

/-- The values that some names stand for (`main::parse_list`); blanks around a name do not count. -/
def readNames {α : Type} (what : String) (ofName? : String → Option α) (names : List String) :
    Except Failure (List α) :=
  names.mapM fun name =>
    match ofName? (Text.trimmed name) with
    | some value => .ok value
    | none => .error (.settings s!"unknown {what} '{name}'")

/-- The settings with what the invocation selects in place of what they do. -/
def Command.adjust (command : Command) (settings : Settings) : Except Failure Settings := do
  match command with
  | .importData _ (some names) =>
    let stages ← readNames "stage" Import.StageKind.ofName? names
    return { settings with imports := { settings.imports with stages := some stages } }
  | .drain (some names) =>
    let queues ← readNames "queue" Mail.Queue.ofName? names
    return { settings with drains := { settings.drains with queues } }
  | _ => return settings

/-- The settings that an invocation uses. -/
def Invocation.settings (invocation : Invocation) (disk : Legacy.Disk) :
    Except Failure Settings := do
  invocation.command.adjust (← Settings.load disk invocation.settingsPath)

/-! ## What is printed -/

/-- The summary of an import as it is printed. -/
def showSummary (asJson rehearse : Bool) (summary : Import.Summary) : String :=
  if asJson then summary.json.pretty ++ "\n"
  else
    let title := if rehearse then "Dry run completed!" else "Migration completed!"
    let seconds := String.ofList (summary.seconds.fixed 2)
    let stages := String.join (summary.stages.map fun stage =>
      let tables := String.join (stage.report.tables.map fun count =>
        s!"    {count.table}: {count.rows}\n")
      s!"  {stage.report.stage.name}:\n" ++ tables)
    s!"\n{title}\n  Run ID: {summary.runId}\n  Duration: {seconds}s\n" ++ stages
      ++ s!"  Rows: {summary.rowsWritten}\n"

def drainJson (report : Mail.DrainReport) : Json :=
  .object [("queue", .text report.queue.name), ("produced", .int report.produced),
    ("marked", .int report.marked), ("delivered", .int report.delivered)]

/-- The reports of drains as they are printed. -/
def showDrains (asJson : Bool) (reports : List Mail.DrainReport) : String :=
  if asJson then (Json.array (reports.map drainJson)).pretty ++ "\n"
  else
    "Drain Results:\n" ++ String.join (reports.map fun report =>
      let queue := report.queue.name
      s!"  {queue}: {report.produced} produced, {report.marked} marked seen, "
        ++ s!"{report.delivered} delivered\n")

/-- A test of the connection, and the milliseconds it took, as they are printed. -/
def showHealth (asJson : Bool) (health : Postgres.Health) (millis : Nat) : String :=
  if asJson then
    let error := match health.error with
      | some message => Json.text message
      | none => .null
    (Json.object [("target_connected", .bool health.connected), ("target_latency_ms", .int millis),
      ("target_error", error), ("healthy", .bool health.healthy)]).pretty ++ "\n"
  else
    let state := if health.connected then "OK" else "FAILED"
    let overall := if health.healthy then "HEALTHY" else "UNHEALTHY"
    let error := match health.error with
      | some message => s!"    Error: {message}\n"
      | none => ""
    s!"Health Check Results:\n  Warehouse (PostgreSQL): {state} ({millis}ms)\n" ++ error
      ++ s!"\n  Overall: {overall}\n"

/-! ## Doing it -/

variable {m : Type → Type} [Monad m] {σ : Type}

/-- Imports into a warehouse. -/
def importInto {ω τ : Type} (around : Surroundings m σ) (settings : Settings)
    (asJson rehearse : Bool) (warehouse : Warehouse ω τ) (w : ω) : m Outcome := do
  let runId ← around.newRunId
  let started ← around.now
  let start ← around.clock
  let legacy := Legacy.Store.ofDirectory around.disk settings.dumpPath
  let stages := settings.stages legacy around.secret
  match ← Import.runTimed around.clock warehouse {} w stages with
  | (.error failure, _) => return { failure := some failure }
  | (.ok summaries, _) =>
    let stop ← around.clock
    let completed ← around.now
    let summary := Import.Summary.ofStages runId settings.hash started completed
      (Import.secondsBetween start stop) summaries
    return { printed := showSummary asJson rehearse summary }

/-- The mailer that takes every message and only notes it. -/
def notingMailer : Mail.Mailer Unit := ⟨fun _ s => (.accepted, s)⟩

/-- Does what a command asks over a pool of connections. -/
def overPool (around : Surroundings m σ) (settings : Settings) (asJson : Bool)
    (pool : Postgres.Pool σ) : Command → m Outcome
  | .importData .. =>
    importInto around settings asJson false
      (Postgres.warehouse around.server settings.target.schema) pool
  | .drain _ =>
    let warehouse := Postgres.warehouse around.server settings.target.schema
    match settings.drain warehouse notingMailer pool () with
    | (.error failure, _) => pure { failure := some failure }
    | (.ok reports, _) => pure { printed := showDrains asJson reports }
  | .testConnection => do
    let start ← around.clock
    let (health, _) := Postgres.health around.server pool
    let stop ← around.clock
    return {
      printed := showHealth asJson health ((stop - start) / 1000000)
      failure := if health.healthy then none else some (.warehouse "Health check failed") }

/-- Does what an invocation asks (`main::run`). -/
def Invocation.execute (invocation : Invocation) (around : Surroundings m σ) : m Outcome :=
  match invocation.settings around.disk with
  | .error failure => pure { failure := some failure }
  | .ok settings =>
    match invocation.command with
    | .importData true _ => do
      let now ← around.now
      importInto around settings invocation.asJson true (Memory.warehouse now) {}
    | command =>
      match Postgres.connect around.server around.serverState with
      | (.error failure, _) => pure { failure := some failure }
      | (.ok pool, _) => overPool around settings invocation.asJson pool command

/-! ## The event of a failure -/

/-- What a log in JSON says of the failure that ends the program. -/
def fatalEvent (diagnostic : Diagnostic) : Json :=
  let text (part : Option String) : Json := .text (part.getD "")
  .object [("level", .text "ERROR"), ("error", .text diagnostic.message),
    ("detail", text diagnostic.detail), ("location", text diagnostic.location),
    ("code", text diagnostic.code)]

end Registrar.CommandLine
