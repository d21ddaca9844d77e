import ValuePath.Members.Text
import ValuePath.Members.Objects
import ValuePath.Value.Equality
import ValuePath.Value.Display

/-!
The members of lists, and of arrays, which have none.
-/
namespace ValuePath

namespace ListMembers

/-- The items of a list; arrays are no receivers. -/
def receiver : Value → Option (List Value)
  | .list items => some items
  | _ => none

/-- The item at a position. -/
def item (items : List Value) (index : Int32) : Except InvokeError Value :=
  match if index < 0 then none else items[index.toInt.toNat]? with
  | some value => .ok value
  | none => .error (.failed ("index " ++ toString index.toInt ++ " out of bounds for length " ++
      toString items.length))

/-- The position of the first equal item, or -1. -/
def indexOf (items : List Value) (needle : Value) : Except InvokeError Value :=
  match items.findIdx? (·.equals needle) with
  | some position => intOfCount position
  | none => .ok (.int (-1))

open Registration in
def registrations (objects : Objects) : List (Registration (List Value)) :=
  [ method "size" [] fun items _ => intOfCount items.length
  , method "isEmpty" [] fun items _ => .ok (.boolean items.isEmpty)
  , method "get" [.primitive .int] fun items args => do
      item items (← Arguments.int args 0)
  , method "contains" [.object] fun items args => do
      let needle ← Arguments.get args 0
      return .boolean (items.any (·.equals needle))
  , method "indexOf" [.object] fun items args => do
      indexOf items (← Arguments.get args 0)
  , method "toString" [] fun items _ =>
      .ok (.string ((Value.list items).display objects.text)) ]

/-- The member table of lists. -/
def table (objects : Objects) : TypeInfo :=
  TypeInfo.build "List" receiver (registrations objects)

end ListMembers

namespace ArrayMembers

/-- The member table of arrays. -/
def table : TypeInfo := TypeInfo.empty "Array"

end ArrayMembers
end ValuePath
