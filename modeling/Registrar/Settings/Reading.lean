import Registrar.Json.Decoder
import Registrar.Settings.Validation
import Registrar.Yaml.Decoder
/-!
# Reading settings

Settings are read from a YAML document, or from a JSON document with the same fields. Fields that
are not known are left alone.
-/
namespace Registrar.Settings

/-- The greatest number of a machine word. -/
def greatestWord : Nat := 18446744073709551615

/-- The greatest number of a port. -/
def greatestPort : Nat := 65535

/-! ## From YAML -/

section Yaml

open Yaml Yaml.Decoder

def readDumpPath : Decoder String :=
  record ["dump_path"] fun document fields => field "dump_path" text none document fields

def readTarget : Decoder TargetSettings :=
  record ["host", "port", "database", "user", "password", "schema", "ssl_mode", "max_connections"]
    fun document fields => do
      let host ← field "host" text none document fields
      let port ← field "port" (natural greatestPort) (some 5432) document fields
      let database ← field "database" text none document fields
      let user ← field "user" text none document fields
      let password ← field "password" text (some "") document fields
      let schema ← field "schema" text (some "public") document fields
      let sslMode ← field "ssl_mode" text (some "disable") document fields
      let maxConnections ←
        field "max_connections" (natural greatestWord) (some 4) document fields
      return { host, port, database, user, password, schema, sslMode, maxConnections }

def readImports : Decoder ImportSettings :=
  record ["batch_size", "stages"] fun document fields => do
    let batchSize ← field "batch_size" (natural greatestWord) (some 1000) document fields
    let stage := named (Import.StageKind.all.map fun kind => (kind.name, kind))
    let stages ← field "stages" (option (list stage)) (some none) document fields
    return { batchSize, stages }

def readDrains : Decoder DrainSettings :=
  record ["channel_capacity", "sources", "course_url_base"] fun document fields => do
    let standard : DrainSettings := {}
    let channelCapacity ← field "channel_capacity" (natural greatestWord)
      (some standard.channelCapacity) document fields
    let queue := named (Mail.Queue.all.map fun queue => (queue.name, queue))
    let queues ← field "sources" (list queue) (some standard.queues) document fields
    let courseUrlBase ←
      field "course_url_base" text (some standard.courseUrlBase) document fields
    return { channelCapacity, queues, courseUrlBase }

/-- Settings as a YAML document has them. -/
def read : Decoder Settings :=
  record ["legacy", "target", "migration", "queue"] fun document fields => do
    let dumpPath ← field "legacy" readDumpPath none document fields
    let target ← field "target" readTarget none document fields
    let imports ← field "migration" readImports (some {}) document fields
    let drains ← field "queue" readDrains (some {}) document fields
    return { dumpPath, target, imports, drains }

end Yaml

/-- The usable settings of a text (`Config::from_yaml`). -/
def ofYaml (s : List Char) : Except Failure Settings :=
  match Yaml.decode? read s with
  | none => .error .yaml
  | some settings => do
    check settings
    return settings

/-- The usable settings of a file (`Config::load`). -/
def load (disk : Legacy.Disk) (path : String) : Except Failure Settings :=
  match disk.text path with
  | .ok s => ofYaml s
  | .error fault => .error (.file fault.message)

/-! ## From JSON -/

section Json

open Json Json.Decoder Json.Schema

def word : Decoder Nat := natural "usize" greatestWord

def targetSchema : Schema TargetSettings :=
  (fun host port database user password schema sslMode maxConnections =>
    { host, port, database, user, password, schema, sslMode, maxConnections })
    <$> required "host" text
    <*> withDefault "port" (natural "u16" greatestPort) 5432
    <*> required "database" text
    <*> required "user" text
    <*> withDefault "password" text ""
    <*> withDefault "schema" text "public"
    <*> withDefault "ssl_mode" text "disable"
    <*> withDefault "max_connections" word 4

def importSchema : Schema ImportSettings :=
  (fun batchSize stages => { batchSize, stages })
    <$> withDefault "batch_size" word 1000
    <*> withDefault "stages"
      (option (list (named (Import.StageKind.all.map fun kind => (kind.name, kind))))) none

def drainSchema : Schema DrainSettings :=
  let standard : DrainSettings := {}
  (fun channelCapacity queues courseUrlBase => { channelCapacity, queues, courseUrlBase })
    <$> withDefault "channel_capacity" word standard.channelCapacity
    <*> withDefault "sources" (list (named (Mail.Queue.all.map fun queue => (queue.name, queue))))
      standard.queues
    <*> withDefault "course_url_base" text standard.courseUrlBase

/-- Settings as a JSON document has them. -/
def decoder : Decoder Settings :=
  Schema.decoder "Config"
    ((fun dumpPath target imports drains => { dumpPath, target, imports, drains })
      <$> required "legacy" (Schema.decoder "LegacyConfig" (id <$> required "dump_path" text))
      <*> required "target" (targetSchema.decoder "TargetConfig")
      <*> withDefault "migration" (importSchema.decoder "MigrationConfig") {}
      <*> withDefault "queue" (drainSchema.decoder "QueueConfig") {})

end Json

end Registrar.Settings
