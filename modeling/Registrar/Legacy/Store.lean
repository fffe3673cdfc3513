import Registrar.Json.Decoder
import Registrar.Json.Reader
import Registrar.Legacy.Csv
import Registrar.Legacy.Extended
import Registrar.Legacy.Files
/-!
# The legacy store

Documents come by collection, whole and in the order of the export; records come by file. A store
holds either what it was given or reads the files of an export directory: a collection is a file
with one document a line, blank lines aside.
-/
namespace Registrar.Legacy

/-- A source of legacy data (`legacy::LegacySource`). -/
structure Store where
  documents : String → Except Failure (List Json)
  records : String → Except Failure (List (List String))

namespace Store

/-- A store that holds its data (`memory::MemorySource`). A collection that it does not hold is
empty. -/
def ofData (collections : List (String × List Json))
    (files : List (String × List (List String))) : Store where
  documents collection := .ok ((collections.lookup collection).getD [])
  records name :=
    match files.lookup name with
    | some records => .ok records
    | none => .error (.legacy name "file not present")

/-- The text of a file of an export, read for a collection (`DumpDirectory::read`). -/
def readFile (disk : Disk) (directory collection file : String) : Except Failure (List Char) :=
  let path := joinPath directory file
  match disk.text path with
  | .ok text => .ok text
  | .error fault => .error (.legacy collection s!"reading {path}: {fault.message}")

/-- The documents on some lines, the first of which has number `line`
(`DumpDirectory::documents`). -/
def readLines (collection : String) (line : Nat) : List (List Char) → Except Failure (List Json)
  | [] => .ok []
  | text :: rest =>
    let text := Text.trim text
    if text = [] then readLines collection (line + 1) rest
    else
      match Json.read text with
      | .error fault => .error (.legacy collection s!"line {line}: {fault.message text}")
      | .ok document => do return document :: (← readLines collection (line + 1) rest)

/-- The store of an export directory (`dump::DumpDirectory`). -/
def ofDirectory (disk : Disk) (directory : String) : Store where
  documents collection := do
    let text ← readFile disk directory collection (collection ++ ".json")
    readLines collection 1 (Text.lines text)
  records name := do Csv.read name (← readFile disk directory name name)

end Store

/-- The documents of a collection as values, the first of which has number `index`
(`legacy::decode`). -/
def decodeFrom {α : Type} (collection : String) (decode : Json.Decoder α) (index : Nat) :
    List Json → Except Failure (List α)
  | [] => .ok []
  | document :: rest =>
    match decode (normalize document) with
    | .error mismatch => .error (.legacy collection s!"document {index}: {mismatch.message}")
    | .ok value => do return value :: (← decodeFrom collection decode (index + 1) rest)

/-- The values of a whole collection (`legacy::load`). -/
def load {α : Type} (store : Store) (collection : String) (decode : Json.Decoder α) :
    Except Failure (List α) := do
  decodeFrom collection decode 0 (← store.documents collection)

end Registrar.Legacy
