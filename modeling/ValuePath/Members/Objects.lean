import ValuePath.Members.TypeInfo

/-!
What is known of the objects that values refer to: their member tables, their
iteration, their text, and the concrete type behind them.
-/
namespace ValuePath

/-- One object as it can be seen from outside. -/
structure ObjectView where
  info : TypeInfo
  /-- The items in order, if the object can be iterated. -/
  items : Option (List Value)
  text : String
  /-- The name of the concrete type behind the object. -/
  concreteType : String

/-- All objects, by identity. -/
abbrev Objects := ObjectId → ObjectView

namespace Objects

/-- Where no value refers to an object. -/
def empty : Objects := fun _ => ⟨TypeInfo.empty "Object", none, "", "Object"⟩

/-- The texts of all objects. -/
def text (objects : Objects) (id : ObjectId) : String := (objects id).text

end Objects

namespace Value

variable (objects : Objects)

/-- The runtime type; null has none. Scalars are boxed. -/
def runtimeType? : Value → Option TypeRef
  | null => none
  | string _ => some .string
  | array _ => some .array
  | list _ => some .list
  | map _ => some .map
  | object id => some (.named (objects id).info.name)
  | scalar => scalar.kind?.map .boxed

/-- The name of the runtime type. -/
def typeName (value : Value) : String :=
  match value.runtimeType? objects with
  | some type => type.name
  | none => "null"

/-- Whether the value is an instance of the type, declared supertypes
included. Null is an instance of nothing, and nothing is an instance of an
unboxed type. -/
def isInstanceOf (value : Value) (type : TypeRef) : Bool :=
  match type, value with
  | _, null => false
  | .object, _ => true
  | .primitive _, _ => false
  | .boxed kind, scalar => scalar.kind? == some kind
  | .string, string _ => true
  | .array, array _ => true
  | .list, list _ => true
  | .map, map _ => true
  | .named name, object id => (objects id).info.isA name
  | _, _ => false

end Value
end ValuePath
