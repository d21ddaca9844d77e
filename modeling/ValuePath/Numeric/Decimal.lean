import ValuePath.Numeric.Binary

/-!
Decimal text: reading digits as numbers, and the nearest binary number to a
written decimal.
-/
namespace ValuePath.Numeric

/-- The value of a digit in a base up to sixteen, in either letter case. -/
def digitValue? (base : Nat) (c : Char) : Option Nat :=
  let value? : Option Nat :=
    if '0' ≤ c ∧ c ≤ '9' then some (c.toNat - '0'.toNat)
    else if 'a' ≤ c ∧ c ≤ 'f' then some (c.toNat - 'a'.toNat + 10)
    else if 'A' ≤ c ∧ c ≤ 'F' then some (c.toNat - 'A'.toNat + 10)
    else none
  value?.filter (· < base)

def isDecimalDigit (c : Char) : Bool := '0' ≤ c && c ≤ '9'

/-- The number that the digits spell, continuing from a number read before. -/
def foldDigits (base : Nat) : Nat → List Char → Option Nat
  | value, [] => some value
  | value, c :: rest =>
    match digitValue? base c with
    | some digit => foldDigits base (value * base + digit) rest
    | none => none

/-- The number that a nonempty run of digits spells. -/
def readDigits? (base : Nat) (text : List Char) : Option Nat :=
  if text.isEmpty then none else foldDigits base 0 text

/-- The number that a run of decimal digits spells; other characters count as
zero, so the caller makes sure that there are none. -/
def decimalValue (digits : List Char) : Nat := (foldDigits 10 0 digits).getD 0

/-- An unsigned decimal number: an integer times a power of ten. -/
structure Decimal where
  significand : Nat
  exponent : Int
  deriving DecidableEq

namespace Decimal

/-- Reads the exponent after its letter. -/
def readExponent? (text : List Char) : Option Int :=
  let (negative, digits) := match text with
    | '-' :: rest => (true, rest)
    | '+' :: rest => (false, rest)
    | rest => (false, rest)
  (readDigits? 10 digits).map fun (n : Nat) => if negative then -(n : Int) else (n : Int)

/-- Reads a whole unsigned decimal: digits with at most one point among them
and at least one digit in all, then perhaps an exponent. -/
def read? (text : List Char) : Option Decimal :=
  let whole := text.takeWhile isDecimalDigit
  let afterWhole := text.dropWhile isDecimalDigit
  let (fraction, rest) := match afterWhole with
    | '.' :: more => (more.takeWhile isDecimalDigit, more.dropWhile isDecimalDigit)
    | other => ([], other)
  if whole.isEmpty && fraction.isEmpty then none
  else
    let significand := decimalValue (whole ++ fraction)
    let scale : Int := -(fraction.length : Int)
    match rest with
    | [] => some ⟨significand, scale⟩
    | 'e' :: more | 'E' :: more => (readExponent? more).map fun e => ⟨significand, scale + e⟩
    | _ => none

/-- The nearest binary number. A decimal whose first digit lies far outside
the range of exponents is decided without computing its power of ten. -/
def toBinary64 (negative : Bool) (decimal : Decimal) : Binary64 :=
  let leading := decimal.exponent + (Nat.toDigits 10 decimal.significand).length
  if decimal.significand = 0 ∨ leading < -400 then Binary64.ofQuotient negative 0 1
  else if 400 < leading then Binary64.ofDatum (.infinite negative)
  else Binary64.ofQuotient negative (decimal.significand * Nat.pow 10 decimal.exponent.toNat)
    (Nat.pow 10 (-decimal.exponent).toNat)

end Decimal
end ValuePath.Numeric
