import ValuePath.Numeric.Binary

/-!
The numbers that documents hold: integers that are not negative, negative
integers, and floating-point numbers, each kept apart from the others.
-/
namespace ValuePath.Numeric

inductive Number where
  | natural (n : UInt64)
  /-- A number below zero. -/
  | negative (n : Int64)
  | float (x : Binary64)
  deriving DecidableEq

namespace Number

/-- A signed integer, by its sign. -/
def ofInt64 (n : Int64) : Number := if n < 0 then negative n else natural n.toUInt64

/-- The number as a 64-bit signed integer, if it is one. -/
def toInt64? : Number → Option Int64
  | natural n => if n.toNat < Nat.pow 2 63 then some (Int64.ofNat n.toNat) else none
  | negative n => some n
  | float _ => none

/-- The nearest floating-point number. -/
def toBinary64 : Number → Binary64
  | natural n => Binary64.ofInt n.toNat
  | negative n => Binary64.ofInt n.toInt
  | float x => x

end Number
end ValuePath.Numeric
