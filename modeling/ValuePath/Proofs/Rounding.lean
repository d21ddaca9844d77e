import Mathlib.Algebra.Order.Ring.Nat
import ValuePath.Numeric.Binary

/-! Rounding depends on a quotient only, not on how it is written, and numbers with
few binary digits are not rounded at all. So a product or a quotient of two such
numbers is rounded like the exact result. Quotients are compared by products of
natural numbers. -/
namespace ValuePath.Rounding
open Numeric Format

/-! ## Powers of two below a quotient -/

/-- A quotient is at least a power of two. -/
def ReachesPower (a b : Nat) (e : Int) : Prop := b * 2 ^ e.toNat ≤ a * 2 ^ (-e).toNat

/-- Both sides may be taken times a further power. -/
theorem reachesPower_iff (a b : Nat) {e : Int} {k : Nat} (below : 0 ≤ e + k) :
    ReachesPower a b e ↔ b * 2 ^ (e + k).toNat ≤ a * 2 ^ k := by
  obtain ⟨d, common⟩ : ∃ d, k = (-e).toNat + d := ⟨k - (-e).toNat, by omega⟩
  have shifted : (e + k).toNat = e.toNat + d := by omega
  rw [ReachesPower, shifted, common, Nat.pow_add, Nat.pow_add, ← Nat.mul_assoc, ← Nat.mul_assoc]
  exact (Nat.mul_le_mul_right_iff (Nat.two_pow_pos d)).symm

theorem ReachesPower.antitone {a b : Nat} {e f : Int} (reaches : ReachesPower a b f)
    (le : e ≤ f) : ReachesPower a b e := by
  have below : 0 ≤ e + (-e).toNat := by omega
  rw [reachesPower_iff a b (by omega : 0 ≤ f + (-e).toNat)] at reaches
  rw [reachesPower_iff a b below]
  have powers : 2 ^ (e + (-e).toNat).toNat ≤ 2 ^ (f + (-e).toNat).toNat :=
    Nat.pow_le_pow_right (by decide) (by omega)
  exact (Nat.mul_le_mul_left b powers).trans reaches

theorem not_reachesPower {a b k : Nat} (small : a < b * 2 ^ k) {e : Int} (above : k ≤ e) :
    ¬ ReachesPower a b e := by
  intro reached
  have smaller := reached.antitone above
  have none : (-(k : Int)).toNat = 0 := by omega
  rw [ReachesPower, Int.toNat_natCast, none, Nat.pow_zero, Nat.mul_one] at smaller
  exact absurd smaller (not_le.mpr small)

theorem reachesPower_scaled {a b c : Nat} (positive : 0 < c) (e : Int) :
    ReachesPower (c * a) (c * b) e ↔ ReachesPower a b e := by
  rw [ReachesPower, ReachesPower, Nat.mul_assoc, Nat.mul_assoc]
  exact Nat.mul_le_mul_left_iff positive

/-- The logarithm is the exponent of the highest power that the quotient reaches. -/
theorem quotientLog_spec {a b : Nat} (top : a ≠ 0) (bottom : b ≠ 0) :
    ReachesPower a b (quotientLog a b) ∧ ¬ ReachesPower a b (quotientLog a b + 1) := by
  have aLow := Nat.log2_self_le top
  have aHigh := Nat.lt_log2_self (n := a)
  have bLow := Nat.log2_self_le bottom
  have bHigh := Nat.lt_log2_self (n := b)
  have estimated : ReachesPower a b ((a.log2 : Int) - b.log2 - 1) := by
    rw [reachesPower_iff a b (k := b.log2 + 1) (by omega)]
    have sum : ((a.log2 : Int) - b.log2 - 1 + (b.log2 + 1 : Nat)).toNat = a.log2 := by omega
    rw [sum, Nat.mul_comm a]
    exact Nat.mul_le_mul bHigh.le aLow
  have above : ¬ ReachesPower a b ((a.log2 : Int) - b.log2 + 1) := by
    rw [reachesPower_iff a b (k := b.log2) (by omega)]
    have sum : ((a.log2 : Int) - b.log2 + 1 + (b.log2 : Nat)).toNat = a.log2 + 1 := by omega
    rw [sum, not_le, Nat.mul_comm b]
    exact Nat.mul_lt_mul_of_lt_of_le aHigh bLow (Nat.pos_of_ne_zero bottom)
  unfold quotientLog
  simp only [Nat.pow_eq]
  split
  · refine ⟨estimated, ?_⟩
    rw [Int.sub_add_cancel, ReachesPower, not_le]
    assumption
  · exact ⟨not_lt.mp ‹_›, above⟩

theorem quotientLog_unique {a b : Nat} (top : a ≠ 0) (bottom : b ≠ 0) {e : Int}
    (reached : ReachesPower a b e) (missed : ¬ ReachesPower a b (e + 1)) :
    quotientLog a b = e := by
  obtain ⟨low, high⟩ := quotientLog_spec top bottom
  rcases lt_trichotomy (quotientLog a b) e with below | same | above
  · exact absurd (reached.antitone (by omega)) high
  · exact same
  · exact absurd (low.antitone (by omega)) missed

/-! ## Rounding -/

theorem quotientLog_scaled {a b c : Nat} (top : a ≠ 0) (bottom : b ≠ 0) (positive : 0 < c) :
    quotientLog (c * a) (c * b) = quotientLog a b := by
  obtain ⟨low, high⟩ := quotientLog_spec top bottom
  exact quotientLog_unique (Nat.mul_ne_zero positive.ne' top)
    (Nat.mul_ne_zero positive.ne' bottom) ((reachesPower_scaled positive _).mpr low)
    (mt (reachesPower_scaled positive _).mp high)

theorem roundQuotient_scaled (a b : Nat) {c : Nat} (positive : 0 < c) :
    roundQuotient (c * a) (c * b) = roundQuotient a b := by
  have more : c * b < 2 * (c * (a % b)) ↔ b < 2 * (a % b) := by
    rw [Nat.mul_left_comm]
    exact Nat.mul_lt_mul_left positive
  have half : 2 * (c * (a % b)) = c * b ↔ 2 * (a % b) = b := by
    rw [Nat.mul_left_comm]
    exact Nat.mul_right_inj positive.ne'
  simp only [roundQuotient, Nat.mul_div_mul_left _ _ positive, Nat.mul_mod_mul_left, more, half]

theorem roundQuotient_exact (a : Nat) {b : Nat} (positive : 0 < b) :
    roundQuotient (a * b) b = a := by
  simp [roundQuotient, Nat.mul_div_cancel _ positive, positive.ne]

theorem roundQuotient_le {a b bound : Nat} (below : a < bound * b) :
    roundQuotient a b ≤ bound := by
  have quotient := Nat.div_lt_of_lt_mul (Nat.mul_comm bound b ▸ below)
  simp only [roundQuotient]
  split <;> omega

section
variable (format : Format)

theorem nearestMagnitude_scaled (a : Nat) {b c : Nat} (bottom : b ≠ 0) (positive : 0 < c) :
    format.nearestMagnitude (c * a) (c * b) = format.nearestMagnitude a b := by
  by_cases top : a = 0
  · simp [nearestMagnitude, top]
  · simp only [nearestMagnitude, top, Nat.mul_eq_zero, positive.ne', or_self, if_false,
      quotientLog_scaled top bottom positive, Nat.mul_assoc, roundQuotient_scaled _ _ positive]

/-- Equal quotients have one nearest number. -/
theorem nearest_of_equal_quotients {a b c d : Nat} (negative : Bool) (bottom : b ≠ 0)
    (other : d ≠ 0) (equal : a * d = c * b) :
    format.nearest negative a b = format.nearest negative c d := by
  have left := nearestMagnitude_scaled format a bottom (Nat.pos_of_ne_zero other)
  have right := nearestMagnitude_scaled format c other (Nat.pos_of_ne_zero bottom)
  rw [Nat.mul_comm d a, equal, Nat.mul_comm c b, Nat.mul_comm d b] at left
  rw [nearest, nearest, ← left, ← right]

end

/-! ## Numbers of 64 bits -/

theorem leastExponent_double : double.leastExponent = -1074 := by decide

theorem infinityBits_double : double.infinityBits = 2047 * 2 ^ 52 := by decide

theorem signWeight_double : double.signWeight = 2 ^ 63 := by decide

/-- The magnitude of a quotient, given the exponent of its last digit. -/
theorem nearestMagnitude_double {a b : Nat} (top : a ≠ 0) {e : Int}
    (exponent : e = max (-1074) (quotientLog a b - 52)) :
    double.nearestMagnitude a b = min double.infinityBits
      ((e + 1074).toNat * 2 ^ 52 +
        roundQuotient (a * 2 ^ (-e).toNat) (b * 2 ^ e.toNat)) := by
  have width : double.fractionWidth = 52 := rfl
  have same : max (-1074) (quotientLog a b - (52 : Nat)) = e := by rw [exponent]; rfl
  simp only [nearestMagnitude, top, if_false, Nat.pow_eq, leastExponent_double, width, same,
    Int.sub_neg]

/-- The magnitude of a quotient far below the largest number is finite. -/
theorem nearestMagnitude_finite {a b : Nat} (bottom : b ≠ 0)
    (small : ¬ ReachesPower a b 1023) : double.nearestMagnitude a b < double.infinityBits := by
  by_cases top : a = 0
  · rw [nearestMagnitude, if_pos top, infinityBits_double]
    decide
  · obtain ⟨low, high⟩ := quotientLog_spec top bottom
    have log : quotientLog a b < 1023 :=
      not_le.mp fun reached => small (low.antitone reached)
    obtain ⟨e, exponent⟩ : ∃ e, e = max (-1074) (quotientLog a b - 52) := ⟨_, rfl⟩
    -- the significand has at most 53 digits, as the quotient is below the next power of two
    have below : a * 2 ^ (-e).toNat < 2 ^ 53 * (b * 2 ^ e.toNat) := by
      have missed : ¬ ReachesPower a b (e + 53) := fun reached =>
        high (reached.antitone (by omega))
      rw [reachesPower_iff a b (by omega : 0 ≤ e + 53 + (-e).toNat)] at missed
      have sum : (e + 53 + (-e).toNat).toNat = e.toNat + 53 := by omega
      rw [sum, Nat.pow_add, ← Nat.mul_assoc, not_le] at missed
      rwa [Nat.mul_comm (2 ^ 53)]
    have rounded := roundQuotient_le below
    rw [nearestMagnitude_double top exponent, infinityBits_double]
    omega

theorem nearestMagnitude_le (a b : Nat) : double.nearestMagnitude a b ≤ double.infinityBits := by
  unfold nearestMagnitude
  split
  · exact Nat.zero_le _
  · exact Nat.min_le_left ..

/-- Rounded numbers fit in 64 bits. -/
theorem toNat_nearest (negative : Bool) (a b : Nat) :
    (double.nearest negative a b).toUInt64.toNat = double.nearest negative a b := by
  have within := nearestMagnitude_le a b
  have fits : double.nearest negative a b < 2 ^ 64 := by
    rw [infinityBits_double] at within
    rw [nearest, signed, signWeight_double]
    split <;> omega
  exact UInt64.toNat_ofNat_of_lt' fits

/-- What finite bits stand for. -/
theorem decode_signed (negative : Bool) {magnitude : Nat}
    (finite : magnitude < double.infinityBits) :
    double.decode (double.signed negative magnitude) =
      if magnitude / 2 ^ 52 = 0 then .finite negative magnitude (-1074)
      else .finite negative (magnitude % 2 ^ 52 + 2 ^ 52)
        (-1074 + (magnitude / 2 ^ 52 - 1 : Nat)) := by
  rw [infinityBits_double] at finite
  have signed_eq : double.signed negative magnitude = negative.toNat * 2 ^ 63 + magnitude := by
    cases negative <;> simp [signed, signWeight_double]
  have sign : (double.signed negative magnitude / 2 ^ 63 % 2 == 1) = negative := by
    have quotient : double.signed negative magnitude / 2 ^ 63 = negative.toNat := by omega
    rw [quotient]
    cases negative <;> rfl
  have field : double.signed negative magnitude / 2 ^ 52 % 2 ^ 11 = magnitude / 2 ^ 52 := by omega
  have fraction : double.signed negative magnitude % 2 ^ 52 = magnitude % 2 ^ 52 := by omega
  have widths : double.fractionWidth = 52 ∧ double.exponentWidth = 11 := ⟨rfl, rfl⟩
  have notFull : magnitude / 2 ^ 52 ≠ 2 ^ 11 - 1 := by omega
  simp only [decode, Nat.pow_eq, signWeight_double, leastExponent_double, widths, sign, field,
    fraction, notFull, if_false]
  split
  · rename_i zero
    rw [Nat.mod_eq_of_lt (by omega)]
  · rfl

/-! ## Exact results -/

/-- The number is this integer. -/
def IsExactly (x : Binary64) (n : Nat) : Prop :=
  ∃ significand exponent, x.datum = .finite false significand exponent ∧
    significand * 2 ^ exponent.toNat = n * 2 ^ (-exponent).toNat

theorem datum_ofQuotient (negative : Bool) (a b : Nat) :
    (Binary64.ofQuotient negative a b).datum =
      double.decode (double.signed negative (double.nearestMagnitude a b)) := by
  rw [Binary64.datum, Binary64.ofQuotient, toNat_nearest, nearest]

/-- Quotients far below the largest number are rounded to finite numbers. -/
theorem datum_finite (negative : Bool) {a b : Nat} (bottom : b ≠ 0)
    (small : ¬ ReachesPower a b 1023) :
    ∃ m e, (Binary64.ofQuotient negative a b).datum = .finite negative m e := by
  rw [datum_ofQuotient, decode_signed negative (nearestMagnitude_finite bottom small)]
  split <;> exact ⟨_, _, rfl⟩

theorem quotientLog_shifted {s : Nat} (nonzero : s ≠ 0) (t : Nat) :
    quotientLog (s * 2 ^ t) 1 = (s.log2 : Int) + t := by
  have low := Nat.log2_self_le nonzero
  have high := Nat.lt_log2_self (n := s)
  have power : ((s.log2 : Int) + t).toNat = s.log2 + t := by omega
  have next : ((s.log2 : Int) + t + 1).toNat = s.log2 + 1 + t := by omega
  have none : (-((s.log2 : Int) + t)).toNat = 0 := by omega
  have nothing : (-((s.log2 : Int) + t + 1)).toNat = 0 := by omega
  refine quotientLog_unique (Nat.mul_ne_zero nonzero (Nat.two_pow_pos t).ne') (by decide) ?_ ?_
  · rw [ReachesPower, power, none, Nat.one_mul, Nat.pow_zero, Nat.mul_one, Nat.pow_add]
    exact Nat.mul_le_mul_right _ low
  · rw [ReachesPower, next, nothing, Nat.one_mul, Nat.pow_zero, Nat.mul_one, Nat.pow_add, not_le]
    exact Nat.mul_lt_mul_of_pos_right high (Nat.two_pow_pos t)

/-- An integer of at most 53 digits can be moved up to exactly 53. -/
theorem normalized {s : Nat} (nonzero : s ≠ 0) (digits : s.log2 ≤ 52) :
    2 ^ 52 ≤ s * 2 ^ (52 - s.log2) ∧ s * 2 ^ (52 - s.log2) < 2 * 2 ^ 52 := by
  have low := Nat.log2_self_le nonzero
  have high := Nat.lt_log2_self (n := s)
  have whole : 2 ^ 52 = 2 ^ s.log2 * 2 ^ (52 - s.log2) := by
    rw [← Nat.pow_add, Nat.add_sub_of_le digits]
  rw [whole, ← Nat.mul_assoc, Nat.mul_comm 2, ← Nat.pow_succ]
  exact ⟨Nat.mul_le_mul_right _ low, Nat.mul_lt_mul_of_pos_right high (Nat.two_pow_pos _)⟩

/-- An integer of at most 53 digits times a power of two is a number. -/
theorem ofQuotient_isExactly {s t : Nat} (short : s < 2 ^ 53) (bounded : t ≤ 900) :
    IsExactly (Binary64.ofQuotient false (s * 2 ^ t) 1) (s * 2 ^ t) := by
  by_cases nonzero : s = 0
  · subst nonzero
    refine ⟨0, -1074, ?_, by simp only [Nat.zero_mul]⟩
    rw [Nat.zero_mul]
    decide
  · have digits : s.log2 ≤ 52 := by
      have := (Nat.log2_lt nonzero).mpr short
      omega
    have log := quotientLog_shifted nonzero t
    obtain ⟨e, exponent⟩ : ∃ e : Int, e = s.log2 + t - 52 := ⟨_, rfl⟩
    obtain ⟨significand, moved⟩ : ∃ n, n = s * 2 ^ (52 - s.log2) := ⟨_, rfl⟩
    have normal := moved ▸ normalized nonzero digits
    have aligned : significand * 2 ^ e.toNat = s * 2 ^ t * 2 ^ (-e).toNat := by
      rw [moved, Nat.mul_assoc, Nat.mul_assoc, ← Nat.pow_add, ← Nat.pow_add]
      congr 2
      omega
    have magnitude : double.nearestMagnitude (s * 2 ^ t) 1 =
        (e + 1074).toNat * 2 ^ 52 + significand := by
      have top : s * 2 ^ t ≠ 0 := Nat.mul_ne_zero nonzero (Nat.two_pow_pos t).ne'
      have last : e = max (-1074) (quotientLog (s * 2 ^ t) 1 - 52) := by omega
      rw [nearestMagnitude_double top last, ← aligned, Nat.one_mul,
        roundQuotient_exact _ (Nat.two_pow_pos _), infinityBits_double]
      exact Nat.min_eq_right (by omega)
    have finite : double.nearestMagnitude (s * 2 ^ t) 1 < double.infinityBits := by
      rw [magnitude, infinityBits_double]
      omega
    refine ⟨significand, e, ?_, aligned⟩
    rw [datum_ofQuotient, decode_signed false finite, magnitude, if_neg (by omega)]
    congr 1 <;> omega

theorem ofInt_isExactly {n : Nat} (short : n ≤ 2 ^ 53) : IsExactly (Binary64.ofInt n) n := by
  have positive : decide ((n : Int) < 0) = false := decide_eq_false (by omega)
  rw [Binary64.ofInt, positive, Int.natAbs_natCast]
  rcases short.lt_or_eq with less | rfl
  · have whole := ofQuotient_isExactly less (Nat.zero_le 900)
    rwa [Nat.pow_zero, Nat.mul_one] at whole
  · have power := ofQuotient_isExactly (by decide : 1 < 2 ^ 53) (by decide : 53 ≤ 900)
    rwa [Nat.one_mul] at power

/-- Factors that are powers of two may change sides. -/
theorem exchange_powers {a b p q r s : Nat} (equal : a * 2 ^ p = b * 2 ^ q)
    (sum : p + s = q + r) : a * 2 ^ r = b * 2 ^ s := by
  apply Nat.eq_of_mul_eq_mul_right (Nat.two_pow_pos p)
  calc a * 2 ^ r * 2 ^ p = a * 2 ^ p * 2 ^ r := Nat.mul_right_comm ..
    _ = b * (2 ^ q * 2 ^ r) := by rw [equal, Nat.mul_assoc]
    _ = b * (2 ^ s * 2 ^ p) := by rw [← Nat.pow_add, ← Nat.pow_add, ← sum, Nat.add_comm p]
    _ = b * 2 ^ s * 2 ^ p := (Nat.mul_assoc ..).symm

theorem mul_isExactly {x y : Binary64} {m n : Nat} (left : IsExactly x m)
    (right : IsExactly y n) : x.mul y = Binary64.ofQuotient false (m * n) 1 := by
  obtain ⟨a, e, xDatum, aligned⟩ := left
  obtain ⟨b, f, yDatum, otherAligned⟩ := right
  have product : a * b * 2 ^ (e.toNat + f.toNat) = m * n * 2 ^ ((-e).toNat + (-f).toNat) := by
    rw [Nat.pow_add, Nat.pow_add, Nat.mul_mul_mul_comm, aligned, otherAligned,
      Nat.mul_mul_mul_comm]
  have equal : a * b * 2 ^ (e + f).toNat = m * n * 2 ^ (-(e + f)).toNat :=
    exchange_powers product (by omega)
  simp only [Binary64.mul, xDatum, yDatum, nearestScaled, Binary64.ofQuotient, Nat.pow_eq,
    bne_self_eq_false]
  rw [nearest_of_equal_quotients double false (Nat.two_pow_pos _).ne' (by decide : 1 ≠ 0)]
  rwa [Nat.mul_one]

theorem div_isExactly {x y : Binary64} {m n : Nat} (left : IsExactly x m)
    (right : IsExactly y n) (nonzero : n ≠ 0) : x.div y = Binary64.ofQuotient false m n := by
  obtain ⟨a, e, xDatum, aligned⟩ := left
  obtain ⟨b, f, yDatum, otherAligned⟩ := right
  have b_ne : b ≠ 0 := by
    rintro rfl
    have := Nat.mul_ne_zero nonzero (Nat.two_pow_pos (-f).toNat).ne'
    omega
  have crossed : a * n * 2 ^ (e.toNat + (-f).toNat) = m * b * 2 ^ ((-e).toNat + f.toNat) := by
    rw [Nat.pow_add, Nat.pow_add, Nat.mul_mul_mul_comm, aligned, ← otherAligned,
      Nat.mul_mul_mul_comm]
  have equal : a * n * 2 ^ (e - f).toNat = m * b * 2 ^ (-(e - f)).toNat :=
    exchange_powers crossed (by omega)
  simp only [Binary64.div, xDatum, yDatum, Binary64.ofQuotient, Nat.pow_eq, bne_self_eq_false]
  rw [nearest_of_equal_quotients double false
    (Nat.mul_ne_zero b_ne (Nat.two_pow_pos _).ne') nonzero]
  rw [Nat.mul_right_comm, equal, Nat.mul_assoc]

/-- Turning a bit over that is not set adds its weight. -/
theorem xor_two_pow {x k : Nat} (below : x < 2 ^ k) : x ^^^ 2 ^ k = 2 ^ k + x := by
  have disjoint := Nat.two_pow_add_eq_or_of_lt below 1
  rw [Nat.mul_one] at disjoint
  rw [disjoint]
  apply Nat.eq_of_testBit_eq
  intro i
  rw [Nat.testBit_xor, Nat.testBit_or, Nat.testBit_two_pow]
  by_cases top : k = i
  · subst top
    simp [Nat.testBit_lt_two_pow below]
  · simp [top]

/-- The negative of a rounded quotient is the rounded negative quotient. -/
theorem neg_ofQuotient (a b : Nat) :
    (Binary64.ofQuotient false a b).neg = Binary64.ofQuotient true a b := by
  have within := nearestMagnitude_le a b
  have positive := toNat_nearest false a b
  have negative := toNat_nearest true a b
  have below : double.nearestMagnitude a b < 2 ^ 63 := by
    rw [infinityBits_double] at within
    omega
  simp only [Binary64.neg, Binary64.ofQuotient, Binary64.mk.injEq]
  apply UInt64.toNat_inj.mp
  have mask : (0x8000000000000000 : UInt64).toNat = 2 ^ 63 := by decide
  rw [UInt64.toNat_xor, positive, negative, mask]
  simp only [nearest, signed, Bool.false_eq_true, if_false, if_true, signWeight_double]
  exact xor_two_pow below

end ValuePath.Rounding
