import Registrar.Number.Double
/-!
# JSON documents

Whole numbers stay whole where 64 bits hold them and are floating point numbers otherwise. The
fields of an object stand in the byte order of their names, each name once: `insert` keeps that
order and replaces the value of a name that is there.
-/
namespace Registrar

/-- A JSON document. -/
inductive Json
  | null
  | bool (b : Bool)
  | int (n : Int)
  | float (x : Number.Double)
  | text (s : String)
  | array (items : List Json)
  | object (fields : List (String × Json))
  deriving Repr, Inhabited

namespace Json

/-- The greatest number of 64 bits with a sign, and the greatest without one. -/
def greatestSigned : Int := 9223372036854775807
def greatestUnsigned : Int := 18446744073709551615

/-- The fields with one more field, in its place. -/
def insert (name : String) (value : Json) : List (String × Json) → List (String × Json)
  | [] => [(name, value)]
  | (key, old) :: rest =>
    if name = key then (name, value) :: rest
    else if name < key then (name, value) :: (key, old) :: rest
    else (key, old) :: insert name value rest

/-- The object of some fields; of two fields with one name the later counts. -/
def ofFields (fields : List (String × Json)) : Json :=
  .object (fields.foldl (fun all (name, value) => insert name value all) [])

/-- The value of a field. -/
def get? (name : String) : Json → Option Json
  | .object fields => fields.lookup name
  | _ => none

end Json

end Registrar
