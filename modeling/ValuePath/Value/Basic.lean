import ValuePath.Value.Kind
import ValuePath.Numeric.Binary
import ValuePath.Entries

/-!
The values that paths walk through: scalars of eight kinds, strings, two kinds
of sequences, maps in order of insertion, and references to objects.
-/
namespace ValuePath

open Numeric (Binary32 Binary64)

/-- The identity of an object. -/
abbrev ObjectId := Nat

inductive Value where
  | null
  | boolean (value : Bool)
  | byte (value : Int8)
  | char (value : Char)
  | short (value : Int16)
  | int (value : Int32)
  | long (value : Int64)
  | float (value : Binary32)
  | double (value : Binary64)
  | string (value : String)
  /-- A sequence of fixed size. -/
  | array (items : List Value)
  /-- A sequence that is walked in order. -/
  | list (items : List Value)
  /-- Entries in order of insertion. -/
  | map (entries : List (String × Value))
  | object (id : ObjectId)

namespace Value

def isNull : Value → Bool
  | null => true
  | _ => false

/-- The kind of a scalar. -/
def kind? : Value → Option Kind
  | boolean _ => some .boolean
  | byte _ => some .byte
  | char _ => some .char
  | short _ => some .short
  | int _ => some .int
  | long _ => some .long
  | float _ => some .float
  | double _ => some .double
  | _ => none

def asBool? : Value → Option Bool
  | boolean value => some value
  | _ => none

def asChar? : Value → Option Char
  | char value => some value
  | _ => none

def asString? : Value → Option String
  | string value => some value
  | _ => none

/-- The number of an integral scalar. -/
def asInt64? : Value → Option Int64
  | byte value => some value.toInt64
  | short value => some value.toInt64
  | int value => some value.toInt64
  | long value => some value
  | _ => none

/-- The number of a numeric scalar, rounded where a 64-bit integer has more
digits than fit. -/
def asBinary64? : Value → Option Binary64
  | float value => some (Binary64.ofBinary32 value)
  | double value => some value
  | other => other.asInt64?.map fun n => Binary64.ofInt n.toInt

/-- The items of a sequence. -/
def asItems? : Value → Option (List Value)
  | array items | list items => some items
  | _ => none

def asEntries? : Value → Option (List (String × Value))
  | map entries => some entries
  | _ => none

def asObject? : Value → Option ObjectId
  | object id => some id
  | _ => none

/-- An integer takes the narrower of two widths where it fits. -/
def ofInt64 (n : Int64) : Value :=
  if Int32.minValue.toInt ≤ n.toInt ∧ n.toInt ≤ Int32.maxValue.toInt then int n.toInt32 else long n

mutual
/-- Every map inside a value has distinct keys. -/
def DistinctKeys : Value → Prop
  | array items | list items => DistinctKeysItems items
  | map entries => Entries.Distinct entries ∧ DistinctKeysEntries entries
  | _ => True

def DistinctKeysItems : List Value → Prop
  | [] => True
  | item :: rest => DistinctKeys item ∧ DistinctKeysItems rest

def DistinctKeysEntries : List (String × Value) → Prop
  | [] => True
  | (_, value) :: rest => DistinctKeys value ∧ DistinctKeysEntries rest
end

end Value
end ValuePath
