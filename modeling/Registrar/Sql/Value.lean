import Registrar.Number.Double
import Registrar.Time.Instant
/-!
# Values of columns

A column holds a value of one of nine kinds or, in their place, a null that still knows its kind.
-/
namespace Registrar.Sql

/-- The kinds of columns (`value::SqlNullType`). -/
inductive Kind
  | bool
  | smallint
  | integer
  | bigint
  | double
  | text
  | textArray
  | date
  | timestamp
  deriving DecidableEq, Repr

/-- The name of the kind in a statement (`SqlNullType::pg_type`). -/
def Kind.typeName : Kind → String
  | .bool => "boolean"
  | .smallint => "smallint"
  | .integer => "integer"
  | .bigint => "bigint"
  | .double => "double precision"
  | .text => "text"
  | .textArray => "text[]"
  | .date => "date"
  | .timestamp => "timestamptz"

/-- The value of a column (`value::SqlValue`). -/
inductive Value
  | null (kind : Kind)
  | bool (b : Bool)
  | smallint (n : Int)
  | integer (n : Int)
  | bigint (n : Int)
  | double (x : Number.Double)
  | text (s : String)
  | textArray (items : List String)
  | date (d : Time.Date)
  | timestamp (t : Time.Instant)
  deriving DecidableEq, Repr

namespace Value

def isNull : Value → Bool
  | null _ => true
  | _ => false

def kind : Value → Kind
  | null kind => kind
  | bool _ => .bool
  | smallint _ => .smallint
  | integer _ => .integer
  | bigint _ => .bigint
  | double _ => .double
  | text _ => .text
  | textArray _ => .textArray
  | date _ => .date
  | timestamp _ => .timestamp

/-- The whole number in a column of whole numbers (`value::SqlValue::as_i64`). -/
def whole? : Value → Option Int
  | smallint n | integer n | bigint n => some n
  | _ => none

/-- The text in a column of texts (`SqlValue::as_str`). -/
def text? : Value → Option String
  | text s => some s
  | _ => none

/-- A value that may be missing. -/
def ofOption {α : Type} (kind : Kind) (make : α → Value) : Option α → Value
  | some a => make a
  | none => null kind

@[simp] theorem kind_ofOption {α : Type} {k : Kind} {make : α → Value} (h : ∀ a, (make a).kind = k)
    (o : Option α) : (ofOption k make o).kind = k := by
  cases o with
  | none => rfl
  | some a => exact h a

end Value

end Registrar.Sql
