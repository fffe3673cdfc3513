import Registrar.Failure
import Registrar.Number.Whole
import Registrar.Sql.Rows
/-!
# The identifier map

Which row of the warehouse a legacy document became. Each kind of document has names of its own;
a name is given to a row once and for all. The map also keeps the list of renamed professors.
-/
namespace Registrar.Import

/-- The kinds of documents that become rows others refer to (`idmap::EntityKind`). -/
inductive Entity
  | course
  | prof
  | courseSection
  | user
  | review
  deriving DecidableEq, Repr

namespace Entity

def all : List Entity := [course, prof, courseSection, user, review]

def name : Entity → String
  | course => "course"
  | prof => "prof"
  | courseSection => "section"
  | user => "user"
  | review => "review"

end Entity

/-- What a legacy document is called: a section by its class number within a term, every other
document by its key (`idmap::LegacyId`). -/
inductive LegacyId
  | key (key : String)
  | classInTerm (classNumber term : Int)
  deriving DecidableEq, Repr

def LegacyId.text : LegacyId → String
  | key k => k
  | classInTerm classNumber term =>
    s!"class {Number.shown classNumber} in term {Number.shown term}"

/-- A correction of a professor's code or name (`prof::ProfRename`). -/
structure Rename where
  oldCode : String
  oldName : String
  newCode : String
  newName : String
  delete : Bool
  deriving DecidableEq, Repr

/-- Where the corrections go. -/
def Rename.layout : Sql.Layout Rename where
  table := "prof_rename"
  columns := ["old_code", "old_name", "new_code", "new_name", "delete"]
  values r := [.text r.oldCode, .text r.oldName, .text r.newCode, .text r.newName, .bool r.delete]

/-- The rows that legacy documents became, and the corrections of professors
(`idmap::IdentifierMap`). -/
structure IdMap where
  entries : List ((Entity × LegacyId) × Int) := []
  renames : List Rename := []
  deriving Repr

namespace IdMap

/-- The row of a document (`IdentifierMap::get`). -/
def get? (ids : IdMap) (entity : Entity) (id : LegacyId) : Option Int :=
  ids.entries.lookup (entity, id)

/-- Registers the row of a document that has none yet (`IdentifierMap::put`). -/
def put (entity : Entity) (id : LegacyId) (row : Int) (ids : IdMap) : Except Failure IdMap :=
  match ids.get? entity id with
  | some _ => .error (.duplicate entity.name id.text)
  | none => .ok { ids with entries := ids.entries ++ [((entity, id), row)] }

/-- The row of a document that must have one (`IdentifierMap::require`); `referrer` is the table
that refers to it. -/
def require (ids : IdMap) (entity : Entity) (id : LegacyId) (referrer : String) :
    Except Failure Int :=
  match ids.get? entity id with
  | some row => .ok row
  | none => .error (.unresolved entity.name id.text referrer)

/-- How many documents of a kind have a row (`IdentifierMap::len`). -/
def count (ids : IdMap) (entity : Entity) : Nat :=
  (ids.entries.filter fun ((kind, _), _) => kind = entity).length

/-- The last correction of a professor (`IdentifierMap::prof_rename`). -/
def rename? (ids : IdMap) (oldCode : String) : Option Rename :=
  ids.renames.reverse.find? fun rename => rename.oldCode = oldCode

end IdMap

end Registrar.Import
