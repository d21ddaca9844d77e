import ValuePath.Numeric.Shortest

/-!
How a format writes floating-point numbers: the decimal exponents that are
written positionally, the look of the others, and the words for what is not a
finite number.
-/
namespace ValuePath.Numeric

/-- The decisions of one format. -/
structure Layout where
  /-- The least exponent of the first digit that is written positionally. -/
  positionalFrom : Int
  /-- The greatest such exponent. -/
  positionalTo : Int
  /-- Whether a positive exponent carries a sign. -/
  exponentPlus : Bool
  tie : Tie
  nan : String
  infinity : String
  negativeInfinity : String

namespace Layout

def zeros (count : Nat) : List Char := List.replicate count '0'

/-- Digits with the point in its place and at least one digit on both sides. -/
def positional (digits : Digits) : List Char :=
  let text := digits.text
  if digits.exponent < 0 then
    '0' :: '.' :: (zeros (-digits.exponent - 1).toNat ++ text)
  else
    let whole := digits.exponent.toNat + 1
    let fraction := text.drop whole
    (text ++ zeros (whole - text.length)).take whole ++
      '.' :: (if fraction.isEmpty then ['0'] else fraction)

/-- One digit, the others after a point, and the exponent. -/
def scientific (layout : Layout) (digits : Digits) : List Char :=
  let mantissa := match digits.text with
    | first :: second :: rest => first :: '.' :: second :: rest
    | text => text
  let sign := if digits.exponent < 0 then ['-'] else if layout.exponentPlus then ['+'] else []
  mantissa ++ 'e' :: (sign ++ Nat.toDigits 10 digits.exponent.natAbs)

/-- The digits in the form that their exponent calls for. -/
def arrange (layout : Layout) (digits : Digits) : List Char :=
  if layout.positionalFrom ≤ digits.exponent ∧ digits.exponent ≤ layout.positionalTo then
    positional digits
  else layout.scientific digits

/-- The text of a number. A zero keeps its sign. -/
def write (layout : Layout) (format : Format) : Datum → String
  | .nan => layout.nan
  | .infinite negative => if negative then layout.negativeInfinity else layout.infinity
  | .finite negative significand exponent =>
    let magnitude :=
      if significand = 0 then ['0', '.', '0']
      else layout.arrange (shortestDigits format layout.tie significand exponent)
    String.ofList (if negative then '-' :: magnitude else magnitude)

end Layout
end ValuePath.Numeric
