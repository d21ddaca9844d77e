/-!
The kinds of scalars and the types that parameters are declared with.
-/
namespace ValuePath

/-- The eight kinds of scalars. -/
inductive Kind where
  | boolean
  | byte
  | char
  | short
  | int
  | long
  | float
  | double
  deriving DecidableEq

namespace Kind

/-- Every kind, in the order of their ordinals. -/
def all : List Kind := [boolean, byte, char, short, int, long, float, double]

def ordinal : Kind → Nat
  | boolean => 0
  | byte => 1
  | char => 2
  | short => 3
  | int => 4
  | long => 5
  | float => 6
  | double => 7

/-- The name of the unboxed type. -/
def primitiveName : Kind → String
  | boolean => "boolean"
  | byte => "byte"
  | char => "char"
  | short => "short"
  | int => "int"
  | long => "long"
  | float => "float"
  | double => "double"

/-- The name of the boxed type. -/
def boxedName : Kind → String
  | boolean => "Boolean"
  | byte => "Byte"
  | char => "Character"
  | short => "Short"
  | int => "Integer"
  | long => "Long"
  | float => "Float"
  | double => "Double"

/-- All kinds hold numbers but truth values and characters. -/
def isNumeric : Kind → Bool
  | boolean | char => false
  | _ => true

end Kind

/-- A declared parameter type, or the runtime type of a value. -/
inductive TypeRef where
  /-- The type of every value. -/
  | object
  /-- An unboxed scalar, which is never null. -/
  | primitive (kind : Kind)
  /-- A boxed scalar. -/
  | boxed (kind : Kind)
  | string
  | array
  | list
  | map
  /-- A named type of objects. -/
  | named (name : String)
  deriving DecidableEq

namespace TypeRef

def isPrimitive : TypeRef → Bool
  | primitive _ => true
  | _ => false

/-- The kind of a scalar type. -/
def kind? : TypeRef → Option Kind
  | primitive kind | boxed kind => some kind
  | _ => none

def name : TypeRef → String
  | object => "Object"
  | primitive kind => kind.primitiveName
  | boxed kind => kind.boxedName
  | string => "String"
  | array => "Array"
  | list => "List"
  | map => "Map"
  | named name => name

end TypeRef
end ValuePath
