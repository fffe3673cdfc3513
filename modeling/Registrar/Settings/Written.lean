import Registrar.Digest.Sha256
import Registrar.Settings.Basic
import Registrar.Yaml.Written
/-!
# Writing settings

Settings in full, defaults included, as a YAML document, and the digest of that document, by which
runs with the same settings are told from others. Stages are written only if some are selected.
-/
namespace Registrar.Settings

/-- A number as a field. -/
def numberField (name : String) (n : Nat) : List Char := Yaml.writeField name (Number.digits n)

/-- A text as a field. -/
def textField (name text : String) : List Char := Yaml.writeField name (Yaml.write text)

/-- A list of names as a field, each on a line of its own. -/
def namesField (name : String) (names : List String) : List Char :=
  match names with
  | [] => s!"  {name}: []\n".toList
  | _ =>
    let items := names.flatMap fun item => s!"  - {item}\n".toList
    s!"  {name}:\n".toList ++ items

/-- The settings as a document. -/
def written (settings : Settings) : List Char :=
  let target := settings.target
  let stages := match settings.imports.stages with
    | none => []
    | some kinds => namesField "stages" (kinds.map Import.StageKind.name)
  "legacy:\n".toList ++ textField "dump_path" settings.dumpPath
    ++ "target:\n".toList
    ++ textField "host" target.host
    ++ numberField "port" target.port
    ++ textField "database" target.database
    ++ textField "user" target.user
    ++ textField "password" target.password
    ++ textField "schema" target.schema
    ++ textField "ssl_mode" target.sslMode
    ++ numberField "max_connections" target.maxConnections
    ++ "migration:\n".toList
    ++ numberField "batch_size" settings.imports.batchSize ++ stages
    ++ "queue:\n".toList
    ++ numberField "channel_capacity" settings.drains.channelCapacity
    ++ namesField "sources" (settings.drains.queues.map Mail.Queue.name)
    ++ textField "course_url_base" settings.drains.courseUrlBase

/-- The digest of the settings (`Config::hash`). -/
def hash (settings : Settings) : String := Digest.ofText settings.written

end Registrar.Settings
