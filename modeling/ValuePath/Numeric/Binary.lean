/-!
Binary floating-point numbers held as their interchange bits. A bit pattern
is read as an exact dyadic number, every operation is carried out exactly on
natural numbers, and the result is rounded once, to the nearest representable
number and to the even significand on a tie.
-/
namespace ValuePath.Numeric

/-- A binary interchange format, given by the widths of its two fields. -/
structure Format where
  exponentWidth : Nat
  fractionWidth : Nat
  deriving DecidableEq

/-- What a bit pattern stands for. A finite number is its significand times
two to its exponent. -/
inductive Datum where
  | nan
  | infinite (negative : Bool)
  | finite (negative : Bool) (significand : Nat) (exponent : Int)
  deriving DecidableEq

namespace Format

/-- The 32-bit format. -/
def single : Format := ⟨8, 23⟩

/-- The 64-bit format. -/
def double : Format := ⟨11, 52⟩

variable (format : Format)

/-- The exponent of the least significant place of the smallest numbers. -/
def leastExponent : Int :=
  2 - (Nat.pow 2 (format.exponentWidth - 1) : Int) - format.fractionWidth

/-- The weight of the sign bit. -/
def signWeight : Nat := Nat.pow 2 (format.exponentWidth + format.fractionWidth)

/-- The magnitude bits of infinity: all exponent bits set and no fraction. -/
def infinityBits : Nat := (Nat.pow 2 format.exponentWidth - 1) * Nat.pow 2 format.fractionWidth

/-- The quiet pattern that stands for every result that is not a number. -/
def nanBits : Nat := format.infinityBits + Nat.pow 2 (format.fractionWidth - 1)

/-- Reads a bit pattern. -/
def decode (bits : Nat) : Datum :=
  let negative := bits / format.signWeight % 2 == 1
  let exponent := bits / Nat.pow 2 format.fractionWidth % Nat.pow 2 format.exponentWidth
  let fraction := bits % Nat.pow 2 format.fractionWidth
  if exponent = Nat.pow 2 format.exponentWidth - 1 then
    if fraction = 0 then .infinite negative else .nan
  else if exponent = 0 then .finite negative fraction format.leastExponent
  else .finite negative (fraction + Nat.pow 2 format.fractionWidth)
    (format.leastExponent + (exponent - 1 : Nat))

/-- The sign bit in its place. -/
def signed (negative : Bool) (magnitude : Nat) : Nat :=
  if negative then format.signWeight + magnitude else magnitude

/-- The quotient rounded to the nearest integer, a half to the even one. -/
def roundQuotient (numerator denominator : Nat) : Nat :=
  let quotient := numerator / denominator
  let twice := 2 * (numerator % denominator)
  if denominator < twice ∨ (twice = denominator ∧ quotient % 2 = 1) then quotient + 1 else quotient

/-- The exponent of the highest power of two that a positive quotient reaches. -/
def quotientLog (numerator denominator : Nat) : Int :=
  let estimate : Int := (numerator.log2 : Int) - denominator.log2
  if numerator * Nat.pow 2 (-estimate).toNat < denominator * Nat.pow 2 estimate.toNat then
    estimate - 1
  else estimate

/-- The magnitude bits nearest to a quotient. A significand that rounds up to
the next power of two carries into the exponent field by plain addition, and
what lies past the largest finite number becomes infinity. -/
def nearestMagnitude (numerator denominator : Nat) : Nat :=
  if numerator = 0 then 0
  else
    let exponent :=
      max format.leastExponent (quotientLog numerator denominator - format.fractionWidth)
    let significand :=
      roundQuotient (numerator * Nat.pow 2 (-exponent).toNat)
        (denominator * Nat.pow 2 exponent.toNat)
    min format.infinityBits
      ((exponent - format.leastExponent).toNat * Nat.pow 2 format.fractionWidth + significand)

/-- The bits nearest to a signed quotient. -/
def nearest (negative : Bool) (numerator denominator : Nat) : Nat :=
  format.signed negative (format.nearestMagnitude numerator denominator)

/-- The bits nearest to a significand times a power of two. -/
def nearestScaled (negative : Bool) (significand : Nat) (exponent : Int) : Nat :=
  format.nearest negative (significand * Nat.pow 2 exponent.toNat) (Nat.pow 2 (-exponent).toNat)

/-- The bits of a datum, rounded where this format is too narrow for it. -/
def encode : Datum → Nat
  | .nan => format.nanBits
  | .infinite negative => format.signed negative format.infinityBits
  | .finite negative significand exponent => format.nearestScaled negative significand exponent

end Format

namespace Datum

/-- Comparison as numbers: nothing equals what is not a number, and the two
zeros are equal. Two patterns of one format are compared, so that equal
numbers have equal significands and exponents. -/
def numericEq : Datum → Datum → Bool
  | .infinite a, .infinite b => a == b
  | .finite a m e, .finite b n f => (m == 0 && n == 0) || (a == b && m == n && e == f)
  | _, _ => false

/-- The integer part, toward zero, held within the given bounds. What is not a
number counts as zero. -/
def truncateWithin (low high : Int) : Datum → Int
  | .nan => 0
  | .infinite negative => if negative then low else high
  | .finite negative significand exponent =>
    let magnitude : Nat := significand * Nat.pow 2 exponent.toNat / Nat.pow 2 (-exponent).toNat
    max low (min high (if negative then -(magnitude : Int) else magnitude))

end Datum

/-- A 32-bit floating-point number. -/
structure Binary32 where
  bits : UInt32
  deriving DecidableEq

/-- A 64-bit floating-point number. -/
structure Binary64 where
  bits : UInt64
  deriving DecidableEq

namespace Binary32

/-- The number behind the bits. -/
def datum (x : Binary32) : Datum := Format.single.decode x.bits.toNat

/-- The nearest number of this width. -/
def ofDatum (d : Datum) : Binary32 := ⟨(Format.single.encode d).toUInt32⟩

/-- Equality of numbers, not of bits. -/
def numericEq (x y : Binary32) : Bool := x.datum.numericEq y.datum

def isNaN (x : Binary32) : Bool := x.datum == .nan

end Binary32

namespace Binary64

/-- The number behind the bits. -/
def datum (x : Binary64) : Datum := Format.double.decode x.bits.toNat

/-- The nearest number of this width. -/
def ofDatum (d : Datum) : Binary64 := ⟨(Format.double.encode d).toUInt64⟩

/-- Equality of numbers, not of bits. -/
def numericEq (x y : Binary64) : Bool := x.datum.numericEq y.datum

def isNaN (x : Binary64) : Bool := x.datum == .nan

def isInfinite (x : Binary64) : Bool :=
  match x.datum with
  | .infinite _ => true
  | _ => false

def isFinite (x : Binary64) : Bool :=
  match x.datum with
  | .finite .. => true
  | _ => false

def isZero (x : Binary64) : Bool :=
  match x.datum with
  | .finite _ significand _ => significand == 0
  | _ => false

/-- The pattern for what is not a number. -/
def nan : Binary64 := ofDatum .nan

/-- The nearest number to a signed quotient. -/
def ofQuotient (negative : Bool) (numerator denominator : Nat) : Binary64 :=
  ⟨(Format.double.nearest negative numerator denominator).toUInt64⟩

/-- The nearest number to an integer. -/
def ofInt (n : Int) : Binary64 := ofQuotient (n < 0) n.natAbs 1

/-- The same number in the wider format. -/
def ofBinary32 (x : Binary32) : Binary64 := ofDatum x.datum

/-- The nearest number of the narrower format. -/
def toBinary32 (x : Binary64) : Binary32 := Binary32.ofDatum x.datum

/-- The integer part as a 64-bit integer; the nearest bound stands for what
lies outside, and zero for what is not a number. -/
def truncate (x : Binary64) : Int64 :=
  Int64.ofInt (x.datum.truncateWithin Int64.minValue.toInt Int64.maxValue.toInt)

/-- The number with the opposite sign. -/
def neg (x : Binary64) : Binary64 := ⟨x.bits ^^^ 0x8000000000000000⟩

/-- The rounded product of two finite numbers. -/
def mul (x y : Binary64) : Binary64 :=
  match x.datum, y.datum with
  | .finite a m e, .finite b n f =>
    ⟨(Format.double.nearestScaled (a != b) (m * n) (e + f)).toUInt64⟩
  | _, _ => nan

/-- The rounded quotient of two finite numbers, the second one not zero. -/
def div (x y : Binary64) : Binary64 :=
  match x.datum, y.datum with
  | .finite a m e, .finite b n f =>
    let shift := e - f
    ofQuotient (a != b) (m * Nat.pow 2 shift.toNat) (n * Nat.pow 2 (-shift).toNat)
  | _, _ => nan

end Binary64
end ValuePath.Numeric
