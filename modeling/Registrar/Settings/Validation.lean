import Registrar.Settings.Basic
import Registrar.Text.Blank
/-!
# Usable settings

Settings that are of the right form may still be of no use. They are checked in the order in which
they are declared, and the first that is of no use is reported.
-/
namespace Registrar.Settings

/-- Fails with a message unless a condition holds. -/
def demand (condition : Bool) (message : String) : Except Failure Unit :=
  if condition then .ok () else .error (.settings message)

@[simp] theorem demand_eq_ok_iff (condition : Bool) (message : String) :
    demand condition message = .ok () ↔ condition = true := by
  cases condition <;> simp [demand]

/-- Whether connections can be made in this mode: without encryption, or with it at will. -/
def isKnownMode (mode : String) : Bool := mode = "disable" || mode = "prefer"

/-- Checks how the warehouse is reached. -/
def checkTarget (target : TargetSettings) : Except Failure Unit := do
  demand (target.host ≠ "") "target.host is required"
  demand (target.database ≠ "") "target.database is required"
  demand (target.user ≠ "") "target.user is required"
  demand (target.schema ≠ "") "target.schema is required"
  demand (isKnownMode target.sslMode)
    s!"target.ssl_mode must be 'disable' or 'prefer', got '{target.sslMode}'"
  demand (target.maxConnections ≠ 0) "target.max_connections must be at least 1"

/-- Checks what an import does. -/
def checkImports (imports : ImportSettings) : Except Failure Unit := do
  demand (imports.batchSize ≠ 0) "migration.batch_size must be at least 1"
  demand (imports.stages ≠ some []) "migration.stages must name at least one stage when set"

/-- Checks what a drain does. -/
def checkDrains (drains : DrainSettings) : Except Failure Unit := do
  demand (drains.channelCapacity ≠ 0) "queue.channel_capacity must be at least 1"
  demand (drains.queues ≠ []) "queue.sources must name at least one queue"
  demand ("http".toList.isPrefixOf drains.courseUrlBase.toList)
    s!"queue.course_url_base must be an http(s) URL, got '{drains.courseUrlBase}'"

/-- Checks all settings (`validation::validate`). -/
def check (settings : Settings) : Except Failure Unit := do
  demand (Text.trim settings.dumpPath.toList ≠ []) "legacy.dump_path is required"
  checkTarget settings.target
  checkImports settings.imports
  checkDrains settings.drains

end Registrar.Settings
