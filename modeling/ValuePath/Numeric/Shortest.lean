import ValuePath.Numeric.Binary

/-!
The shortest decimal that reads back as a given binary number. The candidates
of each length are the two neighbours of the number on that decimal grid; the
first grid with a neighbour that reads back decides the length, and the nearer
neighbour decides the digits.
-/
namespace ValuePath.Numeric

/-- Which of two equally near decimals is taken. -/
inductive Tie where
  | even
  | up
  deriving DecidableEq

/-- A decimal number `0.d₁d₂… × 10^(exponent+1)`: its significant digits as
one number, their count, and the exponent of the first of them. -/
structure Digits where
  value : Nat
  count : Nat
  exponent : Int
  deriving DecidableEq

namespace Digits

/-- The significant digits without the zeros at the end. -/
def trimmed : Nat → Digits → Digits
  | 0, digits => digits
  | fuel + 1, digits =>
    if 1 < digits.count ∧ digits.value % 10 = 0 then
      trimmed fuel { digits with value := digits.value / 10, count := digits.count - 1 }
    else digits

/-- The digits as characters. -/
def text (digits : Digits) : List Char := Nat.toDigits 10 digits.value

end Digits

/-- The set of quotients that round to one number: everything between two
bounds over a common denominator, with or without the bounds themselves. -/
structure RoundingInterval where
  lower : Nat
  middle : Nat
  upper : Nat
  denominator : Nat
  closed : Bool

namespace RoundingInterval

/-- The interval of a positive finite number. Below the least significand of
an exponent the spacing is halved. -/
def ofSignificand (format : Format) (significand : Nat) (exponent : Int) : RoundingInterval :=
  let below := if significand = Nat.pow 2 format.fractionWidth ∧ format.leastExponent < exponent
    then 1 else 2
  let shift := exponent - 2
  let scale := Nat.pow 2 shift.toNat
  { lower := (4 * significand - below) * scale
    middle := 4 * significand * scale
    upper := (4 * significand + 2) * scale
    denominator := Nat.pow 2 (-shift).toNat
    closed := significand % 2 == 0 }

/-- Whether `value * 10 ^ place` rounds to the number. -/
def admits (interval : RoundingInterval) (value : Nat) (place : Int) : Bool :=
  let point := value * Nat.pow 10 place.toNat * interval.denominator
  let unit := Nat.pow 10 (-place).toNat
  if interval.closed then
    interval.lower * unit ≤ point && point ≤ interval.upper * unit
  else interval.lower * unit < point && point < interval.upper * unit

/-- The greatest multiple of `10 ^ place` that does not exceed the number. -/
def floorAt (interval : RoundingInterval) (place : Int) : Nat :=
  interval.middle * Nat.pow 10 (-place).toNat / (interval.denominator * Nat.pow 10 place.toNat)

/-- The exponent of the first decimal digit. -/
def leadingExponent (interval : RoundingInterval) : Int :=
  let estimate : Int :=
    ((interval.middle.log2 : Int) - interval.denominator.log2) * 30103 / 100000
  if interval.floorAt (estimate + 1) ≠ 0 then estimate + 1
  else if interval.floorAt estimate ≠ 0 then estimate
  else estimate - 1

/-- The neighbour on the grid `10 ^ place` that reads back, the nearer one if
both do. -/
def neighbour? (interval : RoundingInterval) (tie : Tie) (place : Int) : Option Nat :=
  let low := interval.floorAt place
  match interval.admits low place, interval.admits (low + 1) place with
  | true, false => some low
  | false, true => some (low + 1)
  | false, false => none
  | true, true =>
    let twice := 2 * interval.middle * Nat.pow 10 (-place).toNat
    let midpoint := (2 * low + 1) * Nat.pow 10 place.toNat * interval.denominator
    if twice < midpoint then some low
    else if midpoint < twice then some (low + 1)
    else match tie with
      | .even => some (if low % 2 = 0 then low else low + 1)
      | .up => some (low + 1)

/-- Tries the grids from the coarsest on. The last one is taken unseen. -/
def search (interval : RoundingInterval) (tie : Tie) (leading : Int) : Nat → Int → Nat × Int
  | 0, place => (interval.floorAt place, place)
  | fuel + 1, place =>
    match interval.neighbour? tie place with
    | some value => (value, place)
    | none => interval.search tie leading fuel (place - 1)

end RoundingInterval

/-- The shortest digits of a positive finite number. Seventeen digits are
enough for every number of either format. -/
def shortestDigits (format : Format) (tie : Tie) (significand : Nat) (exponent : Int) : Digits :=
  let interval := RoundingInterval.ofSignificand format significand exponent
  let leading := interval.leadingExponent
  let (value, place) := interval.search tie leading 17 leading
  let count := (Nat.toDigits 10 value).length
  Digits.trimmed count { value, count, exponent := place + count - 1 }

end ValuePath.Numeric
