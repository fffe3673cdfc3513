import Registrar.Import.Run
import Registrar.Text.Quoted
/-!
# Settings

Where the legacy data lies, how the warehouse is reached, what an import does and what a drain
does. Everything but the paths and the names of the warehouse has a default.
-/
namespace Registrar

/-- How the warehouse is reached (`types::TargetConfig`). -/
structure TargetSettings where
  host : String
  port : Nat := 5432
  database : String
  user : String
  password : String := ""
  /-- The schema of the tables that name none. -/
  schema : String := "public"
  /-- Whether the connection is encrypted. -/
  sslMode : String := "disable"
  maxConnections : Nat := 4
  deriving DecidableEq, Repr

/-- What an import does (`types::MigrationConfig`). -/
structure ImportSettings where
  /-- Rows a statement. -/
  batchSize : Nat := 1000
  /-- The stages to do, if not all of them. -/
  stages : Option (List Import.StageKind) := none
  deriving DecidableEq, Repr

/-- What a drain does (`types::QueueConfig`). -/
structure DrainSettings where
  /-- How many messages may wait between their making and their delivery. -/
  channelCapacity : Nat := 64
  /-- The queues to drain, in order. -/
  queues : List Mail.Queue := Mail.Queue.all
  /-- What the link to a course begins with. -/
  courseUrlBase : String := "https://uwflow.com/course"
  deriving DecidableEq, Repr

/-- All settings (`types::Config`). -/
structure Settings where
  /-- The directory of the export. -/
  dumpPath : String
  target : TargetSettings
  imports : ImportSettings := {}
  drains : DrainSettings := {}
  deriving DecidableEq, Repr

namespace Settings

/-- The stages to do, in the order in which they may run (`MigrationConfig::selected_stages`). -/
def selectedStages (settings : Settings) : List Import.StageKind :=
  Import.selectStages settings.imports.stages

end Settings

/-- The settings of a warehouse as messages show them: without the password (`Debug` of
`TargetConfig`). -/
def TargetSettings.shown (target : TargetSettings) : String :=
  let quoted (name text : String) : String := name ++ ": " ++ Text.quoted text
  let number (name : String) (n : Nat) : String := name ++ ": " ++ Number.shown n
  let fields := ", ".intercalate [quoted "host" target.host, number "port" target.port,
    quoted "database" target.database, quoted "user" target.user, quoted "password" "[REDACTED]",
    quoted "schema" target.schema, quoted "ssl_mode" target.sslMode,
    number "max_connections" target.maxConnections]
  "TargetConfig \x7b " ++ fields ++ " \x7d"

end Registrar
