import ValuePath.Lookup.Error
import ValuePath.Members.Objects

/-!
Conversion of resolved values into requested types. Integral types take every
integral kind that fits, floating types every numeric kind.
-/
namespace ValuePath

/-- A type that a resolved value can be converted to. -/
inductive CastTarget where
  | value
  | boolean
  | char
  | byte
  | short
  | int
  | long
  | float
  | double
  | string
  | list
  | map
  /-- Objects with this concrete type behind them. -/
  | concrete (typeName : String)
  deriving DecidableEq

namespace CastTarget

/-- The name that a failed conversion reports. -/
def expectedName : CastTarget → String
  | value => "Object"
  | boolean => "Boolean"
  | char => "Character"
  | byte => "Byte"
  | short => "Short"
  | int => "Integer"
  | long => "Long"
  | float => "Float"
  | double => "Double"
  | string => "String"
  | list => "List"
  | map => "Map"
  | concrete typeName => typeName

/-- The width in bits of an integral type. -/
def integralWidth? : CastTarget → Option Nat
  | byte => some 8
  | short => some 16
  | int => some 32
  | long => some 64
  | _ => none

end CastTarget

/-- Whether a number fits in a signed integer of this width. -/
def fitsWidth (width : Nat) (n : Int) : Bool :=
  -(Nat.pow 2 (width - 1) : Int) ≤ n && n < (Nat.pow 2 (width - 1) : Int)

namespace Value

/-- The number of an integral scalar, if it fits in this width. -/
def integralWithin? (value : Value) (width : Nat) : Option Int64 :=
  value.asInt64?.filter fun n => fitsWidth width n.toInt

/-- The value of the requested type, if there is one. -/
def convert? (objects : Objects) (value : Value) : CastTarget → Option Value
  | .value => some value
  | .boolean => value.asBool?.map .boolean
  | .char => value.asChar?.map .char
  | .byte => (value.integralWithin? 8).map fun n => .byte n.toInt8
  | .short => (value.integralWithin? 16).map fun n => .short n.toInt16
  | .int => (value.integralWithin? 32).map fun n => .int n.toInt32
  | .long => (value.integralWithin? 64).map .long
  | .float =>
    match value with
    | float x => some (float x)
    | other => other.asBinary64?.map fun x => float x.toBinary32
  | .double => value.asBinary64?.map .double
  | .string => value.asString?.map .string
  | .list => value.asItems?.map .list
  | .map => value.asEntries?.map .map
  | .concrete typeName =>
    match value with
    | object id => if (objects id).concreteType = typeName then some (object id) else none
    | _ => none

/-- Converts a value, or reports the requested type and its own. -/
def cast (objects : Objects) (value : Value) (target : CastTarget) : Except CastError Value :=
  match value.convert? objects target with
  | some converted => .ok converted
  | none => .error ⟨target.expectedName, value.typeName objects⟩

end Value
end ValuePath
