/-!
Lookup paths and their canonical text.
-/
namespace ValuePath

/-- One step of a path. -/
inductive Segment where
  /-- A named field. -/
  | field (name : String)
  /-- A call. Each slot is a position in the list of supplied arguments. -/
  | method (name : String) (slots : List UInt64)
  /-- An element by position, without one if the brackets held no usable number. -/
  | index (position : Option Int64)
  deriving DecidableEq

/-- A path, its segments in the order in which they are applied. -/
structure Path where
  segments : List Segment
  deriving DecidableEq

namespace Segment

/-- The text of a slot. -/
def slotText (slot : UInt64) : List Char := '{' :: (Nat.toDigits 10 slot.toNat ++ ['}'])

/-- The text of a segment, as it is written in a path. -/
def text : Segment → List Char
  | .field name => name.toList
  | .method name slots =>
    name.toList ++ '(' :: (((slots.map slotText).intersperse [',']).flatten ++ [')'])
  | .index (some position) => '[' :: ((toString position.toInt).toList ++ [']'])
  | .index none => ['[', ']']

def display (segment : Segment) : String := String.ofList segment.text

def isIndex : Segment → Bool
  | .index _ => true
  | _ => false

end Segment

namespace Path

/-- The path without segments. -/
def empty : Path := ⟨[]⟩

/-- The text of segments that follow others: a dot goes before each one that
is not an index. -/
def textAfter : List Segment → List Char
  | [] => []
  | segment :: rest => (if segment.isIndex then [] else ['.']) ++ segment.text ++ textAfter rest

/-- The canonical dotted text. -/
def text (path : Path) : List Char :=
  match path.segments with
  | [] => []
  | first :: rest => first.text ++ textAfter rest

def display (path : Path) : String := String.ofList path.text

end Path
end ValuePath
