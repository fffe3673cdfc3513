import Registrar.CommandLine.Execution
import Std.Time.DateTime.Timestamp
/-!
# The program

Reads arguments, files and the clock, does what it is asked, and prints. No server can be reached
from here, so an import needs to be rehearsed and a drain cannot be done.
-/
open Registrar Registrar.CommandLine

namespace Registrar.Program

/-- Why a file could not be read, by the number of the error. -/
def faultOf (error : IO.Error) : Legacy.FileFault :=
  match error with
  | .noFileOrDirectory _ _ _ => .notFound
  | .inappropriateType _ 20 _ => .notADirectory
  | .inappropriateType _ _ _ => .isADirectory
  | .invalidArgument _ 36 _ => .nameTooLong
  | other => .other other.toString

/-- Reads some files; every other path leads nowhere. -/
def readFiles : List String → IO Legacy.Disk
  | [] => return fun _ => .error .notFound
  | path :: rest => do
    let disk ← readFiles rest
    let content ←
      try
        let bytes ← IO.FS.readBinFile path
        pure (.ok (bytes.toList.map UInt8.toNat))
      catch error => pure (.error (faultOf error))
    return fun other => if other = path then content else disk other

/-- The files that an import may read. -/
def exportFiles (directory : String) : List String :=
  let collections := [Import.courseCollection, Import.profCollection, Import.sectionCollection,
    Import.userCollection, Import.userCourseCollection, Import.scheduleCollection]
  (Import.renameFile :: collections.map (· ++ ".json")).map (Legacy.joinPath directory)

/-- A text of characters of an alphabet, chosen at random. -/
def randomText (alphabet : List Char) (length : Nat) : IO String := do
  let chars ← (List.range length).mapM fun _ => do
    return alphabet.getD (← IO.rand 0 (alphabet.length - 1)) 'A'
  return String.ofList chars

/-- A name for a run, in the form of a random identifier of 128 bits. -/
def newRunId : IO String := do
  let hex := "0123456789abcdef".toList
  let parts ← [8, 4].mapM (randomText hex)
  let variant ← randomText "89ab".toList 1
  let version := "4" ++ (← randomText hex 3)
  let rest := variant ++ (← randomText hex 3)
  return "-".intercalate (parts ++ [version, rest, ← randomText hex 12])

def now : IO Time.Instant := do
  let nanos := (← Std.Time.Timestamp.now).toNanosecondsSinceUnixEpoch.val
  return ⟨nanos / 1000000000, (nanos % 1000000000).toNat⟩

/-- The numbers of a sequence that starts at random and goes on without repeating soon. -/
def nextSeed (seed : Nat) : Nat := (seed * 6364136223846793005 + 1442695040888963407) % Nat.pow 2 64

/-- Sixteen capital letters that depend on a seed. -/
def lettersOf : (length seed : Nat) → List Char
  | 0, _ => []
  | length + 1, seed =>
    let seed := nextSeed seed
    Char.ofNat ('A'.toNat + seed / Nat.pow 2 33 % 26) :: lettersOf length seed

/-- A secret for every user. -/
def newSecret : IO (Nat → String) := do
  let seed ← IO.rand 0 (Nat.pow 2 64 - 1)
  return fun user => String.ofList (lettersOf 16 (seed + user * 2654435761))

/-- Tells of the failure that ends the program. -/
def report (invocation : Invocation) (failure : Failure) : IO Unit := do
  let event := fatalEvent failure.diagnostic
  if invocation.logFormat = "json" then IO.eprintln event.compact
  else IO.eprintln s!"ERROR fatal {failure.message}"

/-- Does what an invocation asks; the result is the exit code. -/
def run (invocation : Invocation) : IO UInt32 := do
  let settingsFile ← readFiles [invocation.settingsPath]
  let files ← match invocation.settings settingsFile with
    | .ok settings => readFiles (exportFiles settings.dumpPath)
    | .error _ => pure settingsFile
  let disk (path : String) :=
    if path = invocation.settingsPath then settingsFile path else files path
  let around : Surroundings IO Unit := {
    disk
    server := Postgres.Server.absent
    serverState := ()
    clock := IO.monoNanosNow
    now
    newRunId
    secret := ← newSecret }
  let outcome ← invocation.execute around
  IO.print outcome.printed
  match outcome.failure with
  | some failure => report invocation failure
  | none => pure ()
  return outcome.exitCode.toUInt32

end Registrar.Program

def main (arguments : List String) : IO UInt32 := do
  match CommandLine.read arguments with
  | .tell text =>
    IO.print text
    return 0
  | .refuse =>
    IO.eprintln "error: the arguments cannot be read; see --help"
    return refusedCode.toUInt32
  | .run invocation => Program.run invocation
