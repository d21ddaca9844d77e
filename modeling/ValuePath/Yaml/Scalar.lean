import ValuePath.Numeric.Decimal
import ValuePath.Numeric.Number

/-!
What plain scalars stand for: null, booleans, numbers, and text for all others.
-/
namespace ValuePath.Yaml

open Numeric (Number Decimal Binary64 readDigits?)

inductive Scalar where
  | null
  | boolean (value : Bool)
  | number (value : Number)
  /-- An integer of more than 64 bits and at most 128. -/
  | oversized
  | text
  deriving DecidableEq

namespace Scalar

/-- The text behind a leading character. -/
def behind (c : Char) (text : List Char) : List Char :=
  match text with
  | first :: rest => if first = c then rest else text
  | [] => []

def isSigned (text : List Char) : Bool := text.head?.any fun c => c == '+' || c == '-'

/-- Digits with a needless leading zero, with or without a sign, are text. -/
def isPadded (text : List Char) : Bool :=
  let digits := if isSigned text then text.tail else text
  1 < digits.length && digits.head? == some '0' && digits.all fun c => '0' ≤ c && c ≤ '9'

def isNull (text : String) : Bool := ["null", "Null", "NULL", "~"].contains text

def boolean? (text : String) : Option Bool :=
  if ["true", "True", "TRUE"].contains text then some true
  else if ["false", "False", "FALSE"].contains text then some false
  else none

/-- The base that a letter behind a zero stands for. -/
def baseOf? : Char → Option Nat
  | 'x' => some 16
  | 'o' => some 8
  | 'b' => some 2
  | _ => none

/-- The digits of an unsigned integer, in the base that they begin with. -/
def based? (text : List Char) : Option Nat :=
  match text with
  | '0' :: letter :: digits =>
    match baseOf? letter with
    | some base => readDigits? base digits
    | none => readDigits? 10 text
  | _ => readDigits? 10 text

/-- The integer that a text spells, whatever its size. A plus sign may stand
before it, and a minus sign makes it negative. -/
def integer? (text : List Char) : Option Int :=
  if isPadded text then none
  else
    match text with
    | '-' :: digits => (based? digits).map fun (n : Nat) => -(n : Int)
    | _ => (based? (behind '+' text)).map Int.ofNat

/-- The number for an integer of at most 64 bits. -/
def numberOf? (n : Int) : Option Number :=
  if 0 ≤ n then if n < UInt64.size then some (.natural (UInt64.ofNat n.toNat)) else none
  else if Int64.minValue.toInt ≤ n then some (.negative (Int64.ofInt n)) else none

/-- Whether an integer still fits in 128 bits, with a sign if it is negative. -/
def fitsIn128 (n : Int) : Bool :=
  -(Nat.pow 2 127 : Int) ≤ n && n < (Nat.pow 2 128 : Int)

/-- The floating-point number that a text spells. A decimal beyond the range of
numbers is none. -/
def float? (text : List Char) : Option Binary64 :=
  let magnitude := behind '+' text
  if text.head? = some '+' && isSigned magnitude then none
  else if [".inf", ".Inf", ".INF"].contains (String.ofList magnitude) then
    some (Binary64.ofDatum (.infinite false))
  else if ["-.inf", "-.Inf", "-.INF"].contains (String.ofList text) then
    some (Binary64.ofDatum (.infinite true))
  else if [".nan", ".NaN", ".NAN"].contains (String.ofList text) then some Binary64.nan
  else
    let negative := magnitude.head? == some '-'
    ((Decimal.read? (if negative then magnitude.tail else magnitude)).map
      (Decimal.toBinary64 negative)).filter Binary64.isFinite

/-- What a plain text stands for. -/
def ofPlain (text : String) : Scalar :=
  if text.isEmpty || isNull text then .null
  else
    match boolean? text with
    | some value => .boolean value
    | none =>
      let chars := text.toList
      let floating : Scalar :=
        if isPadded chars then .text
        else match float? chars with
          | some x => .number (.float x)
          | none => .text
      match integer? chars with
      | none => floating
      | some n =>
        match numberOf? n with
        | some fitting => .number fitting
        | none => if fitsIn128 n then .oversized else floating

end Scalar
end ValuePath.Yaml
