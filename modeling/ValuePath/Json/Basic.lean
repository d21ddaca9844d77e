import ValuePath.Numeric.Number
import ValuePath.Entries

/-!
JSON documents. The entries of an object are in the order of their keys.
-/
namespace ValuePath

inductive Json where
  | null
  | boolean (value : Bool)
  | number (value : Numeric.Number)
  | string (value : String)
  | array (items : List Json)
  | object (entries : List (String × Json))

namespace Json

/-- Puts an entry at the place of its key, in the order of code points. The
value under a key that is present already is exchanged. -/
def insertSorted (key : String) (value : Json) : List (String × Json) → List (String × Json)
  | [] => [(key, value)]
  | (other, held) :: rest =>
    if key = other then (key, value) :: rest
    else if key < other then (key, value) :: (other, held) :: rest
    else (other, held) :: insertSorted key value rest

/-- The object of entries in the order of a text; the last of equal keys stays. -/
def ofEntries (entries : List (String × Json)) : Json :=
  object (entries.foldl (fun sorted (key, value) => insertSorted key value sorted) [])

end Json
end ValuePath
