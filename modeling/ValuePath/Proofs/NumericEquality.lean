import Mathlib.Algebra.Order.Ring.Nat
import ValuePath.Numeric.Binary

/-! When two bit patterns of one format are equal as numbers. A pattern beyond
that of infinity stands for no number and equals nothing, the two zeros are equal,
and every other pattern equals itself alone, since no number has two patterns. -/
namespace ValuePath.NumericEquality
open Numeric

variable (format : Format)

/-- A pattern without its sign bit. -/
def magnitude (bits : Nat) : Nat := bits % format.signWeight

/-- Whether the sign bit is set. -/
def negative (bits : Nat) : Bool := bits / format.signWeight % 2 == 1

/-- All exponent bits are set, and there is a fraction behind them. -/
def NotANumber (bits : Nat) : Prop := format.infinityBits < magnitude format bits

instance (bits : Nat) : Decidable (NotANumber format bits) :=
  inferInstanceAs (Decidable (format.infinityBits < magnitude format bits))

/-- Both patterns stand for numbers, and they are the same pattern or two zeros. -/
structure EqualNumbers (first second : Nat) : Prop where
  left : ¬ NotANumber format first
  right : ¬ NotANumber format second
  same : first = second ∨ magnitude format first = 0 ∧ magnitude format second = 0

variable {format} in
theorem EqualNumbers.symm {first second : Nat} (equal : EqualNumbers format first second) :
    EqualNumbers format second first :=
  ⟨equal.right, equal.left, equal.same.imp Eq.symm And.symm⟩

variable {format} in
theorem EqualNumbers.trans {first second third : Nat} (before : EqualNumbers format first second)
    (after : EqualNumbers format second third) : EqualNumbers format first third := by
  refine ⟨before.left, after.right, ?_⟩
  rcases before.same with rfl | ⟨firstZero, secondZero⟩
  · exact after.same
  · rcases after.same with rfl | ⟨-, thirdZero⟩
    · exact .inr ⟨firstZero, secondZero⟩
    · exact .inr ⟨firstZero, thirdZero⟩

variable {format} in
theorem equalNumbers_self_iff {bits : Nat} :
    EqualNumbers format bits bits ↔ ¬ NotANumber format bits :=
  ⟨EqualNumbers.left, fun number => ⟨number, number, .inl rfl⟩⟩

/-- What a pattern is read as. The magnitude counts the patterns from zero on, so
that a significand and an exponent have their place among them. -/
inductive ReadAs (bits : Nat) : Datum → Prop where
  | nan (beyond : NotANumber format bits) : ReadAs bits .nan
  | infinite (reached : magnitude format bits = format.infinityBits) :
      ReadAs bits (.infinite (negative format bits))
  | finite (below : magnitude format bits < format.infinityBits)
      (place : magnitude format bits =
        (exponent - format.leastExponent).toNat * 2 ^ format.fractionWidth + significand)
      (zero : significand = 0 → magnitude format bits = 0) :
      ReadAs bits (.finite (negative format bits) significand exponent)

theorem magnitude_fields (bits : Nat) : magnitude format bits =
    bits % 2 ^ format.fractionWidth + 2 ^ format.fractionWidth *
      (bits / 2 ^ format.fractionWidth % 2 ^ format.exponentWidth) := by
  have weight : format.signWeight = 2 ^ format.fractionWidth * 2 ^ format.exponentWidth := by
    rw [← Nat.pow_add, Nat.add_comm]
    rfl
  rw [magnitude, weight, Nat.mod_mul]

theorem decode_readAs (bits : Nat) : ReadAs format bits (format.decode bits) := by
  have fields := magnitude_fields format bits
  have fraction_lt : bits % 2 ^ format.fractionWidth < 2 ^ format.fractionWidth :=
    Nat.mod_lt _ (Nat.two_pow_pos _)
  have exponent_lt : bits / 2 ^ format.fractionWidth % 2 ^ format.exponentWidth <
      2 ^ format.exponentWidth := Nat.mod_lt _ (Nat.two_pow_pos _)
  have infinity : format.infinityBits =
      2 ^ format.fractionWidth * (2 ^ format.exponentWidth - 1) := Nat.mul_comm _ _
  simp only [Format.decode, Nat.pow_eq]
  generalize bits % 2 ^ format.fractionWidth = fraction at *
  generalize bits / 2 ^ format.fractionWidth % 2 ^ format.exponentWidth = exponent at *
  split
  · rename_i all
    split
    · rename_i none
      exact .infinite (by rw [fields, infinity, none, all, Nat.zero_add])
    · rename_i some
      exact .nan (by rw [NotANumber, fields, infinity, all]; omega)
  · rename_i notAll
    have below : magnitude format bits < format.infinityBits := by
      have next : 2 ^ format.fractionWidth * (exponent + 1) ≤ format.infinityBits := by
        rw [infinity]
        exact Nat.mul_le_mul_left _ (by omega)
      rw [Nat.mul_add, Nat.mul_one] at next
      omega
    split
    · rename_i least
      subst least
      exact .finite below (by simp [fields]) (by simp [fields])
    · rename_i normal
      obtain ⟨before, rfl⟩ := Nat.exists_eq_succ_of_ne_zero normal
      refine .finite below ?_ (by omega)
      rw [fields, Nat.succ_eq_add_one, Nat.mul_add, Nat.mul_comm _ before]
      simp only [Nat.add_sub_cancel, add_sub_cancel_left, Int.toNat_natCast]
      omega

/-- A pattern is its sign and its magnitude. -/
theorem eq_of_magnitude {first second : Nat} (firstFits : first < 2 * format.signWeight)
    (secondFits : second < 2 * format.signWeight)
    (sign : negative format first = negative format second)
    (same : magnitude format first = magnitude format second) : first = second := by
  have firstSign : first / format.signWeight < 2 := Nat.div_lt_of_lt_mul (by omega)
  have secondSign : second / format.signWeight < 2 := Nat.div_lt_of_lt_mul (by omega)
  rw [Bool.eq_iff_iff, negative, negative, beq_iff_eq, beq_iff_eq] at sign
  have signs : first / format.signWeight = second / format.signWeight := by
    generalize first / format.signWeight = bit at *
    generalize second / format.signWeight = other at *
    omega
  rw [← Nat.mod_add_div first format.signWeight, ← Nat.mod_add_div second format.signWeight, signs]
  exact congrArg (· + _) same

theorem equalNumbers_of_numericEq {first second : Nat} {here there : Datum}
    (firstFits : first < 2 * format.signWeight) (secondFits : second < 2 * format.signWeight)
    (left : ReadAs format first here) (right : ReadAs format second there)
    (equal : here.numericEq there = true) : EqualNumbers format first second := by
  have samePattern := eq_of_magnitude format firstFits secondFits
  cases left with
  | nan beyond => cases equal
  | infinite reached =>
    cases right with
    | nan beyond => cases equal
    | infinite reachedToo =>
      exact ⟨reached.not_gt, reachedToo.not_gt,
        .inl (samePattern (beq_iff_eq.mp equal) (reached.trans reachedToo.symm))⟩
    | finite below place zero => cases equal
  | finite below place zero =>
    cases right with
    | nan beyond => cases equal
    | infinite reachedToo => cases equal
    | finite belowToo placeToo zeroToo =>
      refine ⟨below.not_gt, belowToo.not_gt, ?_⟩
      simp only [Datum.numericEq, Bool.or_eq_true, Bool.and_eq_true, beq_iff_eq] at equal
      rcases equal with ⟨none, noneToo⟩ | ⟨⟨sign, rfl⟩, rfl⟩
      · exact .inr ⟨zero none, zeroToo noneToo⟩
      · exact .inl (samePattern sign (place.trans placeToo.symm))

theorem numericEq_self {bits : Nat} {datum : Datum} (read : ReadAs format bits datum)
    (number : ¬ NotANumber format bits) : datum.numericEq datum = true := by
  cases read with
  | nan beyond => exact absurd beyond number
  | infinite reached => simp [Datum.numericEq]
  | finite below place zero => simp [Datum.numericEq]

/-- The patterns of zeros are read as significands of zero. -/
theorem numericEq_zeros {first second : Nat} {here there : Datum} (nonzero : 0 < format.infinityBits)
    (left : ReadAs format first here) (right : ReadAs format second there)
    (leftZero : magnitude format first = 0) (rightZero : magnitude format second = 0) :
    here.numericEq there = true := by
  cases left with
  | nan beyond => rw [NotANumber, leftZero] at beyond; cases beyond
  | infinite reached => omega
  | finite below place zero =>
    cases right with
    | nan beyond => rw [NotANumber, rightZero] at beyond; cases beyond
    | infinite reached => omega
    | finite belowToo placeToo zeroToo =>
      obtain ⟨-, none⟩ := Nat.add_eq_zero_iff.mp (leftZero ▸ place).symm
      obtain ⟨-, noneToo⟩ := Nat.add_eq_zero_iff.mp (rightZero ▸ placeToo).symm
      simp [Datum.numericEq, none, noneToo]

theorem numericEq_iff {first second : Nat} (firstFits : first < 2 * format.signWeight)
    (secondFits : second < 2 * format.signWeight) (nonzero : 0 < format.infinityBits) :
    (format.decode first).numericEq (format.decode second) = true ↔
      EqualNumbers format first second := by
  have left := decode_readAs format first
  have right := decode_readAs format second
  refine ⟨equalNumbers_of_numericEq format firstFits secondFits left right, ?_⟩
  rintro ⟨leftNumber, rightNumber, rfl | ⟨leftZero, rightZero⟩⟩
  · exact numericEq_self format left leftNumber
  · exact numericEq_zeros format nonzero left right leftZero rightZero

theorem numericEq_single (x y : Binary32) :
    x.numericEq y = true ↔ EqualNumbers .single x.bits.toNat y.bits.toNat :=
  numericEq_iff .single x.bits.toNat_lt y.bits.toNat_lt (by decide)

theorem numericEq_double (x y : Binary64) :
    x.numericEq y = true ↔ EqualNumbers .double x.bits.toNat y.bits.toNat :=
  numericEq_iff .double x.bits.toNat_lt y.bits.toNat_lt (by decide)

end ValuePath.NumericEquality
