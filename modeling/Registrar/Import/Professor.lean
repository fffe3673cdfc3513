import Registrar.Import.Stage
import Registrar.Text.Blank
/-!
# Professors and their corrections

A hand-made list corrects the codes and names of professors, or deletes them. Professors whose
codes are the same once corrected become one row, and whatever the list says of them leads there.
-/
namespace Registrar.Import

open Json (Decoder Schema)

/-! ## Corrections -/

/-- The file with the corrections (`prof::PROF_MAPPING_FILE`). -/
def renameFile : String := "prof_mapping.csv"

/-- The correction that a record makes, if it makes one. A missing new code or name keeps the
old one. -/
def Rename.ofRecord? : List String → Option (Option Rename)
  | [oldCode, oldName, newCode, newName, flag] =>
    if newCode = "" ∧ newName = "" ∧ flag = "" then some none
    else some (some {
      oldCode, oldName
      newCode := if newCode = "" then oldCode else newCode
      newName := if newName = "" then oldName else newName
      delete := flag = "DELETE" })
  | _ => none

/-- The corrections with one more, in the place of an earlier one of the same professor. -/
def Rename.add (rename : Rename) : List Rename → List Rename
  | [] => [rename]
  | other :: rest =>
    if other.oldCode = rename.oldCode then rename :: rest else other :: rename.add rest

/-- The corrections of some records, the first of which has number `index`, added to those before
(`prof::parse_renames`). -/
def readRenames (index : Nat) (before : List Rename) :
    List (List String) → Except Failure (List Rename)
  | [] => .ok before
  | record :: rest =>
    match Rename.ofRecord? record with
    | none => .error (.legacy renameFile
        s!"row {index}: expected 5 columns, got {record.length}")
    | some none => readRenames (index + 1) before rest
    | some (some rename) => readRenames (index + 1) (rename.add before) rest

/-- Imports the corrections and keeps them for the professors (`ProfRenameStage::run`). -/
def importRenames (sources : Sources) : Work Report := do
  let records ← Task.lift (sources.legacy.records renameFile)
  let renames ← Task.lift (readRenames 0 [] records)
  let count ← Work.copy sources.batchSize Rename.layout renames
  Task.set { (← Task.get) with renames }
  return ⟨.profRenames, [⟨"prof_rename", count⟩]⟩

/-! ## Professors -/

/-- A professor of the legacy store (`prof::LegacyProf`). -/
structure LegacyProf where
  id : String
  firstName : String
  lastName : String
  deriving Repr

def LegacyProf.decoder : Decoder LegacyProf :=
  Schema.decoder "LegacyProf" <| LegacyProf.mk <$> Schema.required "_id" Decoder.text
    <*> Schema.withDefault "first_name" Decoder.text ""
    <*> Schema.withDefault "last_name" Decoder.text ""

/-- The collection of professors (`prof::COLLECTION`). -/
def profCollection : String := "professor"

/-- The code and the name of a professor after correction; nothing for one that is deleted. -/
def LegacyProf.corrected? (ids : IdMap) (prof : LegacyProf) : Option (String × String) :=
  match ids.rename? prof.id with
  | some rename => if rename.delete then none else some (rename.newCode, rename.newName)
  | none => some (prof.id, Text.trimmed (prof.firstName ++ " " ++ prof.lastName))

/-- Professors that are one row, and the legacy ids that lead to it (`prof::ProfRow`). -/
structure ProfGroup where
  code : String
  name : String
  legacyIds : List String
  deriving DecidableEq, Repr

def profLayout : Sql.Layout ProfGroup where
  table := "prof"
  columns := ["name", "code"]
  values group := [.text group.name, .text group.code]

/-- The groups with one more professor of a code and a name. The first professor of a code gives
the group its name. -/
def addProf (id code name : String) : List ProfGroup → List ProfGroup
  | [] => [⟨code, name, [code, id]⟩]
  | group :: rest =>
    if group.code = code then { group with legacyIds := group.legacyIds ++ [id] } :: rest
    else group :: addProf id code name rest

/-- The groups of some professors. -/
def groupProfs (ids : IdMap) (profs : List LegacyProf) : List ProfGroup :=
  profs.foldl (fun groups prof =>
    match prof.corrected? ids with
    | some (code, name) => addProf prof.id code name groups
    | none => groups) []

/-- Registers legacy ids of a row; one that leads somewhere already is left alone. -/
def claimAll (row : Int) : List String → Work Unit
  | [] => pure ()
  | id :: rest => do
    if ((← Task.get).get? .prof (.key id)).isNone then Work.register .prof (.key id) row
    claimAll row rest

/-- Registers the legacy ids of each group. -/
def claimGroups : List (ProfGroup × Int) → Work Unit
  | [] => pure ()
  | (group, row) :: rest => do
    claimAll row group.legacyIds
    claimGroups rest

/-- Imports the professors (`ProfStage::run`). -/
def importProfs (sources : Sources) : Work Report := do
  let profs ← Task.lift (Legacy.load sources.legacy profCollection LegacyProf.decoder)
  let groups := groupProfs (← Task.get) profs
  let ids ← Work.insert sources.batchSize profLayout groups
  claimGroups (groups.zip ids)
  return ⟨.profs, [⟨"prof", ids.length⟩]⟩

end Registrar.Import
