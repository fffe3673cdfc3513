import Registrar.CommandLine.Arguments
/-!
# Invocations

What the program is asked to do: to import, to drain or to test its connection, with which
settings, and how it is to answer.
-/
namespace Registrar.CommandLine

/-- What is to be done (`main::Commands`). -/
inductive Command
  /-- Import the legacy data, or rehearse that in memory; only some stages if they are named. -/
  | importData (rehearse : Bool) (stages : Option (List String))
  /-- Drain queues; only some if they are named. -/
  | drain (queues : Option (List String))
  /-- Test the connection. -/
  | testConnection
  deriving DecidableEq, Repr

/-- What is to be done, and how (`main::Cli`). -/
structure Invocation where
  /-- The path of the settings. -/
  settingsPath : String := "config.yaml"
  /-- Whether results are written as JSON. -/
  asJson : Bool := false
  logFormat : String := "text"
  verbosity : String := "info"
  command : Command
  deriving DecidableEq, Repr

/-- What a list of arguments comes to. -/
inductive Reading
  | run (invocation : Invocation)
  /-- Something is to be told, and nothing to be done. -/
  | tell (text : String)
  /-- The arguments cannot be read. -/
  | refuse
  deriving DecidableEq, Repr

/-! ## What the program tells -/

/-- The name and the version of the program. -/
def versionText : String := "flow-migrate 0.3.0\n"

def mainHelp : String :=
"Legacy Flow store migration and mail queue drain

Usage: flow-migrate [OPTIONS] <COMMAND>

Commands:
  migrate       Import the legacy dump into the warehouse
  drain         Drain unseen queue rows into outbound messages
  health-check  Test the warehouse connection
  help          Print this message or the help of the given subcommand(s)

Options:
  -c, --config <CONFIG>          Path to YAML configuration file [default: config.yaml]
      --output-json              Output JSON result to stdout
      --log-format <LOG_FORMAT>  Log format: text or json [default: text]
      --verbosity <VERBOSITY>    Log verbosity: debug, info, warn, error [default: info]
  -h, --help                     Print help
  -V, --version                  Print version
"

def importHelp : String :=
"Import the legacy dump into the warehouse

Usage: flow-migrate migrate [OPTIONS]

Options:
      --dry-run          Run the stages against an in-memory warehouse instead
      --stages <STAGES>  Comma-separated stage subset (always run in dependency order)
  -h, --help             Print help
"

def drainHelp : String :=
"Drain unseen queue rows into outbound messages

Usage: flow-migrate drain [OPTIONS]

Options:
      --source <SOURCE>  Comma-separated queue subset: password_reset, section_subscribed, section_vacated
  -h, --help             Print help
"

def testHelp : String :=
"Test the warehouse connection

Usage: flow-migrate health-check

Options:
  -h, --help  Print help
"

def helpHelp : String :=
"Print this message or the help of the given subcommand(s)

Usage: flow-migrate help [COMMAND]...

Arguments:
  [COMMAND]...  Print help for the subcommand(s)
"

/-! ## Reading -/

def helpOption : OptionSpec := ⟨"help", some 'h', .help⟩

/-- The options before the command. -/
def mainOptions : List OptionSpec :=
  [⟨"config", some 'c', .single true⟩, ⟨"output-json", none, .switch⟩,
    ⟨"log-format", none, .single false⟩, ⟨"verbosity", none, .single false⟩, helpOption,
    ⟨"version", some 'V', .version⟩]

/-- The commands, with the options and the help of each. -/
def commandSpecs : List (String × List OptionSpec × String) :=
  [("migrate", [⟨"dry-run", none, .switch⟩, ⟨"stages", none, .many⟩, helpOption], importHelp),
    ("drain", [⟨"source", none, .many⟩, helpOption], drainHelp),
    ("health-check", [helpOption], testHelp)]

/-- The command of a name with its options. -/
def commandOf (name : String) (given : Given) : Command :=
  match name with
  | "migrate" => .importData (given.values? "dry-run").isSome (given.values? "stages")
  | "drain" => .drain (given.values? "source")
  | _ => .testConnection

/-- The help of a command named behind `help`, or of the program. -/
def readHelp : List String → Reading
  | [] => .tell mainHelp
  | ["help"] => .tell helpHelp
  | [name] =>
    match commandSpecs.lookup name with
    | some (_, help) => .tell help
    | none => .refuse
  | _ => .refuse

/-- The arguments behind a command. -/
def readCommand (before : Progress) (name : String) (arguments : List String) : Reading :=
  match commandSpecs.lookup name with
  | none => .refuse
  | some (specs, help) =>
    match readArguments specs [] arguments {} with
    | .error .help => .tell help
    | .error _ => .refuse
    | .ok (progress, _) =>
      match progress.settle, before.settle with
      | .ok given, .ok outer =>
        let standard : Invocation := { command := commandOf name given }
        .run { standard with
          settingsPath := outer.valueOr "config" standard.settingsPath
          asJson := (outer.values? "output-json").isSome
          logFormat := outer.valueOr "log-format" standard.logFormat
          verbosity := outer.valueOr "verbosity" standard.verbosity }
      | _, _ => .refuse

/-- What the arguments of the program come to. -/
def read (arguments : List String) : Reading :=
  match readArguments mainOptions ("help" :: commandSpecs.map Prod.fst) arguments {} with
  | .error .help => .tell mainHelp
  | .error .version => .tell versionText
  | .error .refused => .refuse
  | .ok (_, none) => .refuse
  | .ok (_, some ("help", rest)) => readHelp rest
  | .ok (before, some (name, rest)) => readCommand before name rest

end Registrar.CommandLine
