import Registrar.Text.Cut
/-!
# Arguments

A command takes options and may have commands below it. Arguments are read from left to right. An
option that takes a value takes it from behind an equals sign or from the next argument, which
must not look like an option then. Help and version end the reading where they stand, and so does
everything that cannot be read; an option whose value stands in the next argument is only looked
at when the argument after that value has been read, or a command has.
-/
namespace Registrar.CommandLine

/-- What an option does. -/
inductive OptionKind
  /-- Is there or is not, at most once. -/
  | switch
  /-- Has one value, at most once; `filled` says that the value must have characters. -/
  | single (filled : Bool)
  /-- Has values with commas between them, any number of times. -/
  | many
  | help
  | version
  deriving DecidableEq, Repr

/-- An option: a name behind two dashes, and perhaps a letter behind one. -/
structure OptionSpec where
  name : String
  letter : Option Char := none
  kind : OptionKind
  deriving DecidableEq, Repr

def OptionSpec.takesValue (spec : OptionSpec) : Bool :=
  match spec.kind with
  | .single _ | .many => true
  | _ => false

/-- The options that were given, with their values, in order. -/
abbrev Given := List (String × List String)

/-- Why the reading of arguments ends early. -/
inductive Stop
  | help
  | version
  | refused
  deriving DecidableEq, Repr

/-- The pieces between the commas of a text. -/
def commaPieces (s : String) : List String := (Text.pieces ',' s.toList).map String.ofList

namespace Given

/-- The values of an option that was given. -/
def values? (given : Given) (name : String) : Option (List String) := given.lookup name

/-- The only value of an option, or a default. -/
def valueOr (given : Given) (name default : String) : String :=
  ((given.lookup name).bind List.head?).getD default

/-- One more option with the value that it was given. -/
def add (spec : OptionSpec) (value : Option String) (given : Given) : Except Stop Given :=
  match spec.kind, value with
  | .help, _ => .error .help
  | .version, _ => .error .version
  | .switch, _ =>
    if (given.lookup spec.name).isSome then .error .refused else .ok ((spec.name, []) :: given)
  | .single filled, some text =>
    if (given.lookup spec.name).isSome ∨ (filled ∧ text = "") then .error .refused
    else .ok ((spec.name, [text]) :: given)
  | .many, some text =>
    let before := (given.lookup spec.name).getD []
    .ok ((spec.name, before ++ commaPieces text) :: given)
  | _, none => .error .refused

end Given

/-- What was read so far: the options, and one that has not been looked at yet, with its value
once that has been read. -/
structure Progress where
  given : Given := []
  pending : Option (OptionSpec × Option String) := none

namespace Progress

/-- Looks at the option that is waiting. -/
def settle (progress : Progress) : Except Stop Given :=
  match progress.pending with
  | none => .ok progress.given
  | some (spec, value) => progress.given.add spec value

/-- An option that needs nothing more. -/
def take (spec : OptionSpec) (value : Option String) (progress : Progress) :
    Except Stop Progress := do
  return { given := ← (← progress.settle).add spec value }

/-- An option whose value stands in the next argument. -/
def await (spec : OptionSpec) (progress : Progress) : Except Stop Progress := do
  return { given := ← progress.settle, pending := some (spec, none) }

/-- Whether the next argument is the value of an option. -/
def isOpen (progress : Progress) : Bool :=
  match progress.pending with
  | some (_, none) => true
  | _ => false

/-- An option by its name, and what stands behind an equals sign. -/
def long (specs : List OptionSpec) (body : List Char) (progress : Progress) :
    Except Stop Progress :=
  let (name, value) := match Text.cutAt? '=' body with
    | some (name, value) => (name, some (String.ofList value))
    | none => (body, none)
  match specs.find? fun spec => spec.name.toList = name with
  | none => .error .refused
  | some spec =>
    match spec.takesValue, value with
    | true, some value => progress.take spec (some value)
    | true, none => progress.await spec
    | false, some _ => .error .refused
    | false, none => progress.take spec none

/-- Options by their letters; the characters behind one that takes a value are its value. -/
def short (specs : List OptionSpec) : List Char → Progress → Except Stop Progress
  | [], progress => .ok progress
  | letter :: rest, progress =>
    match specs.find? fun spec => spec.letter = some letter with
    | none => .error .refused
    | some spec =>
      if spec.takesValue then
        match rest with
        | [] => progress.await spec
        | '=' :: value => progress.take spec (some (String.ofList value))
        | value => progress.take spec (some (String.ofList value))
      else do short specs rest (← progress.take spec none)

end Progress

/-- Reads arguments up to the name of a command, if one of `commands` is met. The result is what
was read, the command and the arguments behind it. -/
def readArguments (specs : List OptionSpec) (commands : List String) :
    List String → Progress → Except Stop (Progress × Option (String × List String))
  | [], progress => .ok (progress, none)
  | argument :: rest, progress =>
    match argument.toList with
    | '-' :: '-' :: body =>
      if body = [] then
        if progress.isOpen ∨ rest ≠ [] then .error .refused else .ok (progress, none)
      else do readArguments specs commands rest (← progress.long specs body)
    | '-' :: letter :: body => do
      readArguments specs commands rest (← progress.short specs (letter :: body))
    | _ =>
      match progress.pending with
      | some (spec, none) =>
        readArguments specs commands rest { progress with pending := some (spec, some argument) }
      | _ =>
        if argument ∈ commands then .ok (progress, some (argument, rest))
        else .error .refused

end Registrar.CommandLine
