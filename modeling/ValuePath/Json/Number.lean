import ValuePath.Numeric.Number
import ValuePath.Numeric.Decimal

/-!
Numbers in JSON text. An integer keeps its digits as long as they fit in 64
bits. Any other number is a product: its leading digits as a floating-point
number, times or divided by a power of ten, each rounded on its own, so that
the result may differ from the nearest number in the last place.
-/
namespace ValuePath.Json

open Numeric (Number Binary64 isDecimalDigit decimalValue)

/-- Takes digits up as long as the number fits in 64 bits, and gives the number
with the digits that are left. -/
def accumulate : Nat → List Char → Nat × List Char
  | significand, [] => (significand, [])
  | significand, digit :: rest =>
    let next := significand * 10 + (digit.toNat - '0'.toNat)
    if next < UInt64.size then accumulate next rest else (significand, digit :: rest)

/-- A power of ten as a floating-point number. -/
def powerOfTen (exponent : Nat) : Binary64 := Binary64.ofQuotient false (Nat.pow 10 exponent) 1

/-- Applies a decimal exponent. Gives nothing if the result is too large. -/
def scaleByTen (x : Binary64) (exponent : Int) : Option Binary64 :=
  if exponent < -308 then
    if x.isZero then some x else scaleByTen (x.div (powerOfTen 308)) (exponent + 308)
  else if exponent < 0 then some (x.div (powerOfTen exponent.natAbs))
  else if 308 < exponent then if x.isZero then some x else none
  else
    let product := x.mul (powerOfTen exponent.toNat)
    if product.isInfinite then none else some product
termination_by (-exponent).toNat
decreasing_by omega

/-- The floating-point number of a significand and a decimal exponent. -/
def ofParts (negative : Bool) (significand : Nat) (exponent : Int) : Option Number :=
  (scaleByTen (Binary64.ofInt significand) exponent).map fun x =>
    .float (if negative then x.neg else x)

/-- The number of an integer without fraction and exponent that fits in 64 bits. -/
def ofInteger (negative : Bool) (significand : Nat) : Number :=
  if !negative then .natural significand.toUInt64
  else if significand = 0 ∨ Nat.pow 2 63 < significand then .float (Binary64.ofInt significand).neg
  else .negative (Int64.ofInt (-(significand : Int)))

/-- Reads the digits of an integer from the front: a zero alone, or digits that
do not begin with zero. -/
def readWhole? : List Char → Option (List Char × List Char)
  | '0' :: rest => if (rest.head?.any isDecimalDigit) then none else some (['0'], rest)
  | text =>
    let digits := text.takeWhile isDecimalDigit
    if digits.isEmpty then none else some (digits, text.dropWhile isDecimalDigit)

/-- Reads a fraction from the front, if one begins there. -/
def readFraction? : List Char → Option (List Char × List Char)
  | '.' :: rest =>
    let digits := rest.takeWhile isDecimalDigit
    if digits.isEmpty then none else some (digits, rest.dropWhile isDecimalDigit)
  | text => some ([], text)

/-- Reads an exponent from the front: its sign and digits, if one begins there. -/
def readExponent? : List Char → Option (Option (Bool × List Char) × List Char)
  | 'e' :: rest | 'E' :: rest =>
    let (negative, text) := match rest with
      | '-' :: more => (true, more)
      | '+' :: more => (false, more)
      | more => (false, more)
    let digits := text.takeWhile isDecimalDigit
    if digits.isEmpty then none else some (some (negative, digits), text.dropWhile isDecimalDigit)
  | text => some (none, text)

/-- Reads a number from the front of a text. -/
def readNumber? (text : List Char) : Option (Number × List Char) :=
  let negative := text.head? == some '-'
  match readWhole? (if negative then text.tail else text) with
  | none => none
  | some (whole, afterWhole) =>
    match readFraction? afterWhole with
    | none => none
    | some (fraction, afterFraction) =>
      match readExponent? afterFraction with
      | none => none
      | some (exponent, rest) =>
        let (leading, dropped) := accumulate 0 whole
        if dropped.isEmpty && fraction.isEmpty && exponent.isNone then
          some (ofInteger negative leading, rest)
        else
          let (significand, unused) := accumulate leading fraction
          let scale : Int := (dropped.length : Int) - (fraction.length - unused.length : Nat)
          let power : Int := match exponent with
            | some (true, digits) => -(decimalValue digits : Int)
            | some (false, digits) => (decimalValue digits : Int)
            | none => 0
          (ofParts negative significand (scale + power)).map (·, rest)

end ValuePath.Json
