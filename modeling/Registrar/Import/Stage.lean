import Registrar.Import.IdMap
import Registrar.Legacy.Store
import Registrar.Warehouse.Basic
/-!
# Stages

An import goes stage by stage, one kind of document each, in an order in which every stage finds
the rows that it refers to. A stage reads whole collections, writes rows in batches, and registers
the rows that later stages refer to.
-/
namespace Registrar.Import

/-- The stages (`migrate::StageKind`). -/
inductive StageKind
  | courses
  | requisites
  | profRenames
  | profs
  | sections
  | users
  | reviews
  | histories
  | schedules
  deriving DecidableEq, Repr, Inhabited

namespace StageKind

/-- Every stage in the order in which they may run. -/
def all : List StageKind :=
  [courses, requisites, profRenames, profs, sections, users, reviews, histories, schedules]

/-- What settings and reports call the stage (`StageKind::name`). -/
def name : StageKind → String
  | courses => "course"
  | requisites => "course_requisite"
  | profRenames => "prof_rename"
  | profs => "prof"
  | sections => "section"
  | users => "user"
  | reviews => "review"
  | histories => "legacy_review"
  | schedules => "schedule"

/-- The stage of a name (`StageKind::parse`). -/
def ofName? (name : String) : Option StageKind := all.find? fun kind => kind.name = name

theorem ofName?_name (kind : StageKind) : ofName? kind.name = some kind := by
  cases kind <;> decide

end StageKind

/-- How many rows were written to a table (`migrate::TableCount`). -/
structure TableCount where
  table : String
  rows : Nat
  deriving DecidableEq, Repr

/-- What a stage wrote (`migrate::StageReport`). -/
structure Report where
  stage : StageKind
  tables : List TableCount
  deriving DecidableEq, Repr

namespace Report

/-- How many rows were written in all (`StageReport::rows`). -/
def rows (report : Report) : Nat := (report.tables.map TableCount.rows).foldr (· + ·) 0

/-- How many rows were written to a table, if it was written to (`StageReport::count`). -/
def count? (report : Report) (table : String) : Option Nat :=
  (report.tables.find? fun count => count.table = table).map TableCount.rows

end Report

/-- What a stage reads, and how it writes (`migrate::StageContext`). -/
structure Sources where
  legacy : Legacy.Store
  /-- Rows a statement. -/
  batchSize : Nat
  /-- A secret for the user at some place of the collection. -/
  secret : Nat → String

/-- A conversation that registers rows. -/
abbrev Work (α : Type) := Task IdMap α

namespace Work

variable {ρ : Type}

/-- Inserts rows batch by batch. -/
def insertAll : List Sql.Rows → Work (List Int)
  | [] => pure []
  | rows :: rest => do
    let ids ← Task.ask (.insert rows)
    return ids ++ (← insertAll rest)

/-- Writes rows batch by batch. -/
def copyAll : List Sql.Rows → Work Nat
  | [] => pure 0
  | rows :: rest => do
    let count ← Task.ask (.copy rows)
    return count + (← copyAll rest)

/-- Inserts records (`StageContext::insert_ids`); the result is the id of each. -/
def insert (batchSize : Nat) (layout : Sql.Layout ρ) (records : List ρ) : Work (List Int) := do
  let rows ← Task.lift (layout.rowsOf records)
  insertAll (rows.chunks batchSize)

/-- Writes records (`StageContext::copy`); the result is how many. -/
def copy (batchSize : Nat) (layout : Sql.Layout ρ) (records : List ρ) : Work Nat := do
  let rows ← Task.lift (layout.rowsOf records)
  copyAll (rows.chunks batchSize)

/-- Registers the row of a document. -/
def register (entity : Entity) (id : LegacyId) (row : Int) : Work Unit :=
  Task.change (IdMap.put entity id row)

/-- Registers the row of each of some documents. -/
def registerAll (entity : Entity) : List (LegacyId × Int) → Work Unit
  | [] => pure ()
  | (id, row) :: rest => do
    register entity id row
    registerAll entity rest

end Work

end Registrar.Import
