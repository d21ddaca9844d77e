import ValuePath.Members.Table

/-!
What a value is written as: a tree of scalars, sequences and mappings with
string keys. An object is a mapping of its fields, or a sequence of its items
if it has no fields but can be iterated.
-/
namespace ValuePath

open Numeric (Binary32 Binary64)

inductive Tree where
  | null
  | boolean (value : Bool)
  | integer (value : Int)
  | character (value : Char)
  | single (value : Binary32)
  | double (value : Binary64)
  | text (value : String)
  | sequence (items : List Tree)
  | mapping (entries : List (String × Tree))

namespace Value

mutual
/-- The tree of a value, given the trees of the objects in it. -/
def treeWith (objectTree : ObjectId → Option Tree) : Value → Option Tree
  | null => some .null
  | boolean value => some (.boolean value)
  | byte value => some (.integer value.toInt)
  | char value => some (.character value)
  | short value => some (.integer value.toInt)
  | int value => some (.integer value.toInt)
  | long value => some (.integer value.toInt)
  | float value => some (.single value)
  | double value => some (.double value)
  | string value => some (.text value)
  | array items | list items => (treesWith objectTree items).map .sequence
  | map entries => (entryTreesWith objectTree entries).map .mapping
  | object id => objectTree id

def treesWith (objectTree : ObjectId → Option Tree) : List Value → Option (List Tree)
  | [] => some []
  | item :: rest => do
    let first ← treeWith objectTree item
    let others ← treesWith objectTree rest
    return first :: others

def entryTreesWith (objectTree : ObjectId → Option Tree) :
    List (String × Value) → Option (List (String × Tree))
  | [] => some []
  | (key, value) :: rest => do
    let first ← treeWith objectTree value
    let others ← entryTreesWith objectTree rest
    return (key, first) :: others
end

end Value

namespace Objects

variable (objects : Objects)

/-- The value that an object stands for in a tree: a map of its fields, where
what cannot be read is null, or the list of its items. -/
def outline (id : ObjectId) : Value :=
  let view := objects id
  match view.info.fields, view.items with
  | [], some items => .list items
  | fields, _ =>
    .map (fields.map fun field => (field.name, (field.read (.object id)).getD .null))

/-- The tree of a value in which objects are nested at most `depth` deep. -/
def tree : (depth : Nat) → Value → Option Tree
  | 0 => Value.treeWith fun _ => none
  | depth + 1 => Value.treeWith fun id => tree depth (objects.outline id)

end Objects
end ValuePath
