import ValuePath.Members.Objects
import ValuePath.Value.Equality
import ValuePath.Value.Display

/-!
The members of the eight kinds of scalars. Every value is taken as a receiver,
and a conversion fails on one that it does not apply to.
-/
namespace ValuePath

namespace Value

/-- The integer part of a numeric scalar. -/
def truncated? (value : Value) : Option Int64 :=
  match value.asInt64? with
  | some n => some n
  | none => value.asBinary64?.map Numeric.Binary64.truncate

end Value

namespace ScalarMembers

/-- What a conversion gives, or the complaint that the receiver is not of the
expected type. -/
def required (expected : String) : Option Value → Except InvokeError Value
  | some value => .ok value
  | none => .error (.receiver expected)

open Registration in
/-- The members that all kinds share. -/
def sharedRegistrations (objects : Objects) : List (Registration Value) :=
  [ method "toString" [] fun value _ => .ok (.string (value.display objects.text))
  , method "equals" [.object] fun value args => do
      return .boolean (value.equals (← Arguments.get args 0)) ]

open Registration in
/-- The conversions of numbers. Narrowing to an int wraps around. -/
def numericRegistrations : List (Registration Value) :=
  [ method "intValue" [] fun value _ =>
      required "Number" (value.truncated?.map fun n => .int n.toInt32)
  , method "longValue" [] fun value _ =>
      required "Number" (value.truncated?.map .long)
  , method "doubleValue" [] fun value _ =>
      required "Number" (value.asBinary64?.map .double) ]

open Registration in
/-- The conversions of one kind. -/
def kindRegistrations (kind : Kind) : List (Registration Value) :=
  match kind with
  | .boolean =>
    [method "booleanValue" [] fun value _ => required "Boolean" (value.asBool?.map .boolean)]
  | .char =>
    [method "charValue" [] fun value _ => required "Character" (value.asChar?.map .char)]
  | _ => numericRegistrations

/-- The member table of one kind of scalars. -/
def table (objects : Objects) (kind : Kind) : TypeInfo :=
  TypeInfo.build kind.boxedName some (sharedRegistrations objects ++ kindRegistrations kind)

end ScalarMembers
end ValuePath
