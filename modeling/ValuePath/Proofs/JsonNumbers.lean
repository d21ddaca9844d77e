import ValuePath.Yaml.Scalar
import Mathlib.Data.Nat.Digits.Defs
import ValuePath.Proofs.DecimalText
import ValuePath.Proofs.JsonReading
import ValuePath.Proofs.PortableJson
import ValuePath.Proofs.Rounding

/-! A number of JSON text is the same number as a plain scalar of YAML, as long as
both readers have it exactly: the one rounds digits and power of ten apart, the
other rounds once. -/
namespace ValuePath.JsonNumbers
open JsonGrammar PortableJson Rounding
open Numeric (Number Binary64 Decimal isDecimalDigit decimalValue foldDigits readDigits?)
open Yaml (Scalar)

/-! ## Digits -/

theorem digits_of_run (run : Digits) : DecimalText.Digits run.val :=
  fun c member => (DecimalText.isDecimalDigit_iff c).mp (run.property.2 c member)

theorem digits_of_literal (literal : Literal) : DecimalText.Digits (digits literal) := by
  intro c member
  rcases List.mem_append.mp member with whole | fraction
  · exact digits_of_run literal.whole c whole
  · cases given : literal.fraction with
    | none =>
      rw [given] at fraction
      cases fraction
    | some run =>
      rw [given] at fraction
      exact digits_of_run run c fraction

theorem le_ofDigitChars (text : List Char) (value : Nat) :
    value ≤ Nat.ofDigitChars 10 text value := by
  induction text generalizing value with
  | nil => exact Nat.le_refl value
  | cons c rest ih =>
    have later := ih (10 * value + (c.toNat - '0'.toNat))
    rw [Nat.ofDigitChars_cons]
    omega

/-- Digits are all taken up where their number fits in 64 bits. -/
theorem accumulate_all {text : List Char} {value : Nat}
    (fits : Nat.ofDigitChars 10 text value < UInt64.size) :
    Json.accumulate value text = (Nat.ofDigitChars 10 text value, []) := by
  induction text generalizing value with
  | nil => rfl
  | cons c rest ih =>
    rw [Nat.ofDigitChars_cons, Nat.mul_comm 10] at fits ⊢
    have next : value * 10 + (c.toNat - '0'.toNat) < UInt64.size :=
      (le_ofDigitChars rest _).trans_lt fits
    rw [Json.accumulate, if_pos next, ih fits]

theorem readDigits_run (run : Digits) : readDigits? 10 run.val = some (decimalValue run.val) := by
  rw [readDigits?, if_neg (by simpa using run.property.1),
    DecimalText.foldDigits_of_digits (digits_of_run run),
    DecimalText.decimalValue_of_digits (digits_of_run run)]

theorem foldDigits_foreign {c : Char} (foreign : Numeric.digitValue? 10 c = none)
    {text : List Char} (member : c ∈ text) (value : Nat) : foldDigits 10 value text = none := by
  induction text generalizing value with
  | nil => cases member
  | cons d rest ih =>
    rw [foldDigits]
    rcases List.mem_cons.mp member with rfl | later
    · rw [foreign]
    · cases Numeric.digitValue? 10 d with
      | none => rfl
      | some digit => exact ih later _

/-! ## The parts of a literal -/

/-- What follows the digits in front of the point. -/
def behindWhole (literal : Literal) : List Char :=
  fractionText literal.fraction ++ exponentText literal.exponent

/-- A literal without its sign. -/
def unsigned (literal : Literal) : List Char := literal.whole.val ++ behindWhole literal

/-- What follows the first digits is nothing for an integer, and begins with no
digit for all other numbers. -/
theorem behindWhole_cases (literal : Literal) :
    ((literal.fraction = none ∧ literal.exponent = none) ∧ behindWhole literal = []) ∨
      (¬(literal.fraction = none ∧ literal.exponent = none) ∧
        ∃ c more, behindWhole literal = c :: more ∧ (c = '.' ∨ c = 'e' ∨ c = 'E')) := by
  rw [behindWhole]
  cases literal.fraction with
  | some run => exact .inr ⟨by simp, _, _, rfl, .inl rfl⟩
  | none =>
    cases literal.exponent with
    | none => exact .inl ⟨⟨rfl, rfl⟩, rfl⟩
    | some exponent => exact .inr ⟨by simp, _, _, rfl, .inr exponent.letter_eq⟩

/-- The first digit of a literal, and the digits behind it. -/
theorem whole_cons (literal : Literal) :
    ∃ c more, literal.whole.val = c :: more ∧ isDecimalDigit c = true ∧
      (c = '0' → more = []) := by
  have nonempty := literal.whole.property.1
  have unpadded := literal.unpadded
  cases run : literal.whole.val with
  | nil => exact absurd run nonempty
  | cons c more =>
    refine ⟨c, more, rfl, literal.whole.property.2 c (run ▸ List.mem_cons_self), ?_⟩
    rintro rfl
    rw [run] at unpadded
    exact (List.cons.inj (unpadded rfl)).2

theorem text_eq (literal : Literal) :
    literal.text = if literal.negative then '-' :: unsigned literal else unsigned literal := by
  cases sign : literal.negative <;> simp [Literal.text, sign, unsigned, behindWhole]

/-! ## The number in JSON -/

theorem number_integer {literal : Literal}
    (whole : literal.fraction = none ∧ literal.exponent = none)
    (fits : decimalValue literal.whole.val < 2 ^ 64) :
    literal.number? = some (Json.ofInteger literal.negative (decimalValue literal.whole.val)) := by
  rw [DecimalText.decimalValue_of_digits (digits_of_run literal.whole)] at fits ⊢
  have taken : Json.accumulate 0 literal.whole.val = (_, []) := accumulate_all fits
  simp [Literal.number?, taken, whole.1, whole.2]

theorem number_decimal {literal : Literal}
    (decimal : ¬(literal.fraction = none ∧ literal.exponent = none))
    (fits : decimalValue (digits literal) < 2 ^ 64) :
    literal.number? =
      Json.ofParts literal.negative (decimalValue (digits literal)) (scale literal) := by
  rw [DecimalText.decimalValue_of_digits (digits_of_literal literal), digits,
    Nat.ofDigitChars_append] at fits ⊢
  have first := accumulate_all ((le_ofDigitChars _ _).trans_lt fits)
  have second := accumulate_all fits
  have marked : (literal.fraction.isNone && literal.exponent.isNone) = false := by
    simpa [Option.isSome_iff_ne_none] using decimal
  simp only [Literal.number?, first, second, List.isEmpty_nil, Bool.true_and, marked,
    Bool.false_eq_true, if_false, List.length_nil, Nat.sub_zero, scale]
  congr 1
  omega

/-- Powers of ten up to the twenty-second are numbers of 64 bits. -/
theorem powerOfTen_isExactly {k : Nat} (small : k ≤ 22) :
    IsExactly (Json.powerOfTen k) (10 ^ k) := by
  have factors : 10 ^ k = 5 ^ k * 2 ^ k := Nat.mul_pow 5 2 k
  have short : 5 ^ k < 2 ^ 53 :=
    (Nat.pow_le_pow_right (by decide) small).trans_lt (by decide : 5 ^ 22 < 2 ^ 53)
  rw [Json.powerOfTen, Nat.pow_eq, factors]
  exact ofQuotient_isExactly short (by omega)

/-- The number nearest to a decimal. -/
def nearestDecimal (negative : Bool) (significand : Nat) (exponent : Int) : Binary64 :=
  Binary64.ofQuotient negative (significand * 10 ^ exponent.toNat) (10 ^ (-exponent).toNat)

section
variable {significand : Nat} {exponent : Int} (short : significand ≤ 2 ^ 53)
  (within : -22 ≤ exponent ∧ exponent ≤ 22)
include short within

theorem nearestDecimal_finite (negative : Bool) :
    ∃ m e, (nearestDecimal negative significand exponent).datum = .finite negative m e := by
  have power : 10 ^ exponent.toNat ≤ 10 ^ 22 := Nat.pow_le_pow_right (by decide) (by omega)
  have bottom : 1 ≤ 10 ^ (-exponent).toNat := Nat.pow_pos (by decide)
  have fits : significand * 10 ^ exponent.toNat < 10 ^ (-exponent).toNat * 2 ^ 127 := by
    have top := Nat.mul_le_mul short power
    have least := Nat.mul_le_mul_right (2 ^ 127) bottom
    omega
  exact datum_finite negative (Nat.pos_iff_ne_zero.mp bottom)
    (not_reachesPower fits (by decide : ((127 : Nat) : Int) ≤ 1023))

/-- Digits and power of ten that are numbers of 64 bits are rounded once. -/
theorem ofParts_exact (negative : Bool) :
    Json.ofParts negative significand exponent =
      some (.float (nearestDecimal negative significand exponent)) := by
  have digits := ofInt_isExactly short
  have scaled : Json.scaleByTen (Binary64.ofInt significand) exponent =
      some (nearestDecimal false significand exponent) := by
    rw [Json.scaleByTen, if_neg (by omega)]
    by_cases below : exponent < 0
    · have up : exponent.toNat = 0 := by omega
      have down : exponent.natAbs = (-exponent).toNat := by omega
      have power := powerOfTen_isExactly (by omega : (-exponent).toNat ≤ 22)
      rw [if_pos below, down, div_isExactly digits power (Nat.pow_pos (by decide)).ne',
        nearestDecimal, up, Nat.pow_zero, Nat.mul_one]
    · have down : (-exponent).toNat = 0 := by omega
      have power := powerOfTen_isExactly (by omega : exponent.toNat ≤ 22)
      have product : (Binary64.ofInt significand).mul (Json.powerOfTen exponent.toNat) =
          nearestDecimal false significand exponent := by
        rw [mul_isExactly digits power, nearestDecimal, down, Nat.pow_zero]
      obtain ⟨m, e, finite⟩ := nearestDecimal_finite short within false
      rw [if_neg below, if_neg (by omega), product]
      simp [Binary64.isInfinite, finite]
  rw [Json.ofParts, scaled, Option.map_some]
  cases negative
  · rfl
  · rw [if_pos rfl, nearestDecimal, neg_ofQuotient]
    rfl

/-- The same decimal is rounded in one step. -/
theorem toBinary64_exact (negative : Bool) :
    Decimal.toBinary64 negative ⟨significand, exponent⟩ =
      nearestDecimal negative significand exponent := by
  have length := Nat.toDigits_length 10 significand 16 (by decide)
    (short.trans_lt (by decide))
  unfold Decimal.toBinary64
  simp only [Nat.pow_eq]
  by_cases zero : significand = 0
  · have bottom : 10 ^ (-exponent).toNat ≠ 0 := (Nat.pow_pos (by decide)).ne'
    rw [if_pos (.inl zero), zero, nearestDecimal, Nat.zero_mul, Binary64.ofQuotient,
      Binary64.ofQuotient, nearest_of_equal_quotients _ negative (by decide : 1 ≠ 0) bottom]
    rw [Nat.zero_mul, Nat.zero_mul]
  · rw [if_neg (by omega), if_neg (by omega), nearestDecimal]

end

/-! ## The number in YAML -/

theorem unsigned_head (literal : Literal) :
    ∃ c more, unsigned literal = c :: more ∧ isDecimalDigit c = true := by
  obtain ⟨c, more, whole, digit, -⟩ := whole_cons literal
  exact ⟨c, more ++ behindWhole literal, by rw [unsigned, whole, List.cons_append], digit⟩

theorem not_sign {c : Char} (digit : isDecimalDigit c = true) : c ≠ '-' ∧ c ≠ '+' ∧ c ≠ '.' := by
  refine ⟨?_, ?_, ?_⟩ <;> rintro rfl <;> cases digit

theorem not_padded (literal : Literal) : Scalar.isPadded literal.text = false := by
  obtain ⟨c, more, whole, digit, unpadded⟩ := whole_cons literal
  have sign := not_sign digit
  have bare : (if Scalar.isSigned literal.text then literal.text.tail else literal.text) =
      unsigned literal := by
    rw [text_eq]
    cases literal.negative with
    | true => rfl
    | false => simp [unsigned, whole, Scalar.isSigned, sign]
  rw [Scalar.isPadded, bare, unsigned, whole]
  by_cases zero : c = '0'
  · rw [unpadded zero]
    obtain ⟨-, nothing⟩ | ⟨-, d, others, behind, letter⟩ := behindWhole_cases literal
    · simp [nothing]
    · rw [behind]
      rcases letter with rfl | rfl | rfl <;> simp
  · simp [zero]

/-- Without a sign, the digits of a literal are decimal ones. -/
theorem based_unsigned (literal : Literal) :
    Scalar.based? (unsigned literal) = readDigits? 10 (unsigned literal) := by
  obtain ⟨c, more, whole, -, unpadded⟩ := whole_cons literal
  rw [unsigned, whole]
  by_cases zero : c = '0'
  · rw [unpadded zero, zero]
    obtain ⟨-, nothing⟩ | ⟨-, d, others, behind, letter⟩ := behindWhole_cases literal
    · rw [nothing]
      rfl
    · rw [behind]
      rcases letter with rfl | rfl | rfl <;> rfl
  · unfold Scalar.based?
    split
    · rename_i same
      exact absurd (List.cons.inj same).1 zero
    · rfl

theorem behind_plus {c : Char} (sign : c ≠ '+') (more : List Char) :
    Scalar.behind '+' (c :: more) = c :: more := by
  rw [Scalar.behind, if_neg sign]

theorem integer_minus {text : List Char} (padded : Scalar.isPadded ('-' :: text) = false) :
    Scalar.integer? ('-' :: text) = (Scalar.based? text).map fun n : Nat => -(n : Int) := by
  rw [Scalar.integer?, padded]
  rfl

theorem integer_bare {c : Char} {more : List Char}
    (padded : Scalar.isPadded (c :: more) = false) (minus : c ≠ '-') (plus : c ≠ '+') :
    Scalar.integer? (c :: more) = (Scalar.based? (c :: more)).map Int.ofNat := by
  unfold Scalar.integer?
  rw [padded, if_neg Bool.false_ne_true, behind_plus plus]
  split
  · rename_i same
    exact absurd (List.cons.inj same).1 minus
  · rfl

theorem integer_text (literal : Literal) : Scalar.integer? literal.text =
    (readDigits? 10 (unsigned literal)).map fun n : Nat =>
      if literal.negative then -(n : Int) else (n : Int) := by
  obtain ⟨c, more, head, digit⟩ := unsigned_head literal
  have sign := not_sign digit
  have padded := not_padded literal
  have text := text_eq literal
  rw [← based_unsigned]
  cases negative : literal.negative with
  | true =>
    rw [negative, if_pos rfl] at text
    rw [text] at padded ⊢
    exact integer_minus padded
  | false =>
    rw [negative, if_neg Bool.false_ne_true] at text
    rw [text, head] at padded
    rw [text, head]
    exact integer_bare padded sign.1 sign.2.1

/-- An integer of YAML, if there is neither a fraction nor an exponent. -/
theorem readDigits_unsigned (literal : Literal) : readDigits? 10 (unsigned literal) =
    if literal.fraction = none ∧ literal.exponent = none then some (decimalValue literal.whole.val)
    else none := by
  obtain ⟨whole, nothing⟩ | ⟨decimal, c, more, behind, letter⟩ := behindWhole_cases literal
  · rw [if_pos whole, unsigned, nothing, List.append_nil]
    exact readDigits_run literal.whole
  · have foreign : Numeric.digitValue? 10 c = none := by
      rcases letter with rfl | rfl | rfl <;> rfl
    rw [if_neg decimal, unsigned, behind, readDigits?, if_neg (by simp)]
    exact foldDigits_foreign foreign (by simp) 0

theorem readExponent_text (exponent : Exponent) :
    Decimal.readExponent? (exponent.sign.toList ++ exponent.digits.val) = some exponent.value := by
  obtain ⟨letter, letter_eq, sign, sign_eq, run⟩ := exponent
  have read := readDigits_run run
  cases sign with
  | some c =>
    rcases sign_eq c rfl with rfl | rfl <;>
      simp [Decimal.readExponent?, Exponent.value, Exponent.negative, read]
  | none =>
    obtain ⟨digits, nonempty, all⟩ := run
    cases digits with
    | nil => exact absurd rfl nonempty
    | cons c more =>
      have sign := not_sign (all c List.mem_cons_self)
      simp [Decimal.readExponent?, Exponent.value, Exponent.negative, read, sign]

/-- The point and the exponent of a literal do not belong to its first digits. -/
theorem span_whole (literal : Literal) :
    (unsigned literal).takeWhile isDecimalDigit = literal.whole.val ∧
      (unsigned literal).dropWhile isDecimalDigit = behindWhole literal := by
  apply JsonReading.span_digits
  intro c first
  obtain ⟨-, nothing⟩ | ⟨-, d, more, behind, letter⟩ := behindWhole_cases literal
  · rw [nothing] at first
    cases first
  · rw [behind] at first
    cases first
    rcases letter with rfl | rfl | rfl <;> rfl

theorem decimal_unsigned (literal : Literal) : Decimal.read? (unsigned literal) =
    some ⟨decimalValue (digits literal), scale literal⟩ := by
  have span := span_whole literal
  have nonempty := literal.whole.property.1
  have exponentEnds : ∀ c ∈ (exponentText literal.exponent).head?, isDecimalDigit c = false := by
    cases literal.exponent with
    | none => simp [exponentText]
    | some exponent =>
      rintro _ ⟨⟩
      rcases exponent.letter_eq with letter | letter <;> rw [letter] <;> rfl
  unfold Decimal.read?
  rw [span.1, span.2, behindWhole, digits, scale]
  cases literal.fraction with
  | none =>
    cases literal.exponent with
    | none => simp [fractionText, exponentText, fractionDigits, nonempty]
    | some exponent =>
      have read := readExponent_text exponent
      rcases exponent.letter_eq with letter | letter <;>
        simp [fractionText, exponentText, Exponent.text, fractionDigits, nonempty, letter, read]
  | some run =>
    have fraction := JsonReading.span_digits run exponentEnds
    revert fraction
    cases literal.exponent with
    | none =>
      rw [exponentText, List.append_nil]
      intro fraction
      simp [fractionText, fractionDigits, nonempty, fraction]
    | some exponent =>
      rw [exponentText, Exponent.text]
      intro fraction
      have read := readExponent_text exponent
      rcases exponent.letter_eq with letter | letter <;>
        · rw [letter] at fraction
          simp [fractionText, fractionDigits, nonempty, letter, fraction, read,
            Int.sub_eq_add_neg, Int.add_comm]

theorem not_listed {words : List String} {chars : List Char}
    (distinct : ∀ word ∈ words, word.toList ≠ chars) :
    words.contains (String.ofList chars) = false := by
  refine Bool.eq_false_iff.mpr fun listed => ?_
  exact distinct _ (List.contains_iff_mem.mp listed) String.toList_ofList

/-- A literal is read as a decimal, as no name of a number begins like one. -/
theorem float_text (literal : Literal) : Scalar.float? literal.text =
    (some (Decimal.toBinary64 literal.negative
      ⟨decimalValue (digits literal), scale literal⟩)).filter Binary64.isFinite := by
  obtain ⟨c, more, head, digit⟩ := unsigned_head literal
  have sign := not_sign digit
  have read := decimal_unsigned literal
  rw [text_eq]
  rw [head] at read ⊢
  cases literal.negative with
  | true =>
    have infinite : [".inf", ".Inf", ".INF"].contains (String.ofList ('-' :: c :: more)) = false :=
      not_listed (by simp)
    have negative : ["-.inf", "-.Inf", "-.INF"].contains (String.ofList ('-' :: c :: more)) =
        false := not_listed (by simp [Ne.symm sign.2.2])
    have none : [".nan", ".NaN", ".NAN"].contains (String.ofList ('-' :: c :: more)) = false :=
      not_listed (by simp)
    rw [if_pos rfl, Scalar.float?, behind_plus (by decide), infinite, negative, none]
    simp [read]
  | false =>
    have infinite : [".inf", ".Inf", ".INF"].contains (String.ofList (c :: more)) = false :=
      not_listed (by simp [Ne.symm sign.2.2])
    have negative : ["-.inf", "-.Inf", "-.INF"].contains (String.ofList (c :: more)) = false :=
      not_listed (by simp [Ne.symm sign.1])
    have none : [".nan", ".NaN", ".NAN"].contains (String.ofList (c :: more)) = false :=
      not_listed (by simp [Ne.symm sign.2.2])
    have unsigned : ((c :: more).head? == some '-') = false := by simp [sign.1]
    rw [if_neg Bool.false_ne_true, Scalar.float?, behind_plus sign.2.1, infinite, negative, none,
      unsigned]
    simp [read, sign.2.1]

/-- A literal is neither null nor a boolean. -/
theorem ofPlain_text (literal : Literal) :
    (String.ofList literal.text).isEmpty = false ∧
      Scalar.isNull (String.ofList literal.text) = false ∧
      Scalar.boolean? (String.ofList literal.text) = none := by
  obtain ⟨c, more, written, start⟩ := JsonReading.literal_head literal
  have letters : c ≠ 'n' ∧ c ≠ 'N' ∧ c ≠ '~' ∧ c ≠ 't' ∧ c ≠ 'T' ∧ c ≠ 'f' ∧ c ≠ 'F' := by
    refine ⟨?_, ?_, ?_, ?_, ?_, ?_, ?_⟩ <;>
      · rintro rfl
        rcases start with minus | digit
        · cases minus
        · cases digit
  obtain ⟨n, n', tilde, t, t', f, f'⟩ := letters
  have null : ["null", "Null", "NULL", "~"].contains (String.ofList literal.text) = false :=
    not_listed (by simp [written, n.symm, n'.symm, tilde.symm])
  have true_ : ["true", "True", "TRUE"].contains (String.ofList literal.text) = false :=
    not_listed (by simp [written, t.symm, t'.symm])
  have false_ : ["false", "False", "FALSE"].contains (String.ofList literal.text) = false :=
    not_listed (by simp [written, f.symm, f'.symm])
  refine ⟨?_, null, ?_⟩
  · rw [written]
    simp
  · rw [Scalar.boolean?, true_, false_]
    rfl

/-! ## Agreement -/

/-- Integers of 64 bits, except the negative zero, are kept as they are. -/
theorem numberOf_integer {negative : Bool} {n : Nat}
    (fits : if negative then 0 < n ∧ n ≤ 2 ^ 63 else n < 2 ^ 64) :
    Scalar.numberOf? (if negative then -(n : Int) else (n : Int)) =
      some (Json.ofInteger negative n) := by
  cases negative with
  | true =>
    obtain ⟨positive, low⟩ := fits
    have least : Int64.minValue.toInt ≤ -(n : Int) := by
      have value : Int64.minValue.toInt = -2 ^ 63 := by decide
      omega
    have inside : ¬(n = 0 ∨ Nat.pow 2 63 < n) := by
      rw [Nat.pow_eq]
      omega
    rw [if_pos rfl, Scalar.numberOf?, if_neg (by omega), if_pos least, Json.ofInteger,
      if_neg (by simp), if_neg inside]
  | false =>
    have fits : n < 2 ^ 64 := fits
    have inside : (n : Int) < UInt64.size := by
      have size : UInt64.size = 2 ^ 64 := rfl
      omega
    rw [if_neg Bool.false_ne_true, Scalar.numberOf?, if_pos (Int.natCast_nonneg n), if_pos inside,
      Json.ofInteger, if_pos (by simp)]
    rfl

/-- The sign of a literal before the number of its digits. -/
def signedWhole (literal : Literal) : Int :=
  if literal.negative then -(decimalValue literal.whole.val : Int)
  else (decimalValue literal.whole.val : Int)

/-- The number in JSON of a literal that both readers have exactly: an integer of 64
bits or a decimal that is rounded once. -/
theorem exact_cases {literal : Literal} {n : Number} (agreed : Exact literal)
    (denotes : literal.number? = some n) :
    ((literal.fraction = none ∧ literal.exponent = none) ∧
        Scalar.numberOf? (signedWhole literal) = some n) ∨
      (¬(literal.fraction = none ∧ literal.exponent = none) ∧
        decimalValue (digits literal) ≤ 2 ^ 53 ∧ (-22 ≤ scale literal ∧ scale literal ≤ 22) ∧
        n = .float (nearestDecimal literal.negative (decimalValue (digits literal))
          (scale literal))) := by
  by_cases whole : literal.fraction = none ∧ literal.exponent = none
  · rw [Exact, if_pos whole] at agreed
    have fits : decimalValue literal.whole.val < 2 ^ 64 := by
      split at agreed <;> omega
    rw [number_integer whole fits] at denotes
    exact .inl ⟨whole, (numberOf_integer agreed).trans denotes⟩
  · rw [Exact, if_neg whole] at agreed
    obtain ⟨short, within⟩ := agreed
    rw [number_decimal whole (short.trans_lt (by decide)), ofParts_exact short within] at denotes
    exact .inr ⟨whole, short, within, (Option.some.inj denotes).symm⟩

/-- Where both readers have a number exactly, a literal is the same number in both. -/
theorem ofPlain_exact {literal : Literal} {n : Number} (agreed : Exact literal)
    (denotes : literal.number? = some n) :
    Scalar.ofPlain (String.ofList literal.text) = .number n := by
  obtain ⟨nonempty, null, boolean⟩ := ofPlain_text literal
  have integer := integer_text literal
  rw [readDigits_unsigned] at integer
  obtain ⟨whole, number⟩ | ⟨decimal, short, within, rfl⟩ := exact_cases agreed denotes
  · rw [if_pos whole, Option.map_some] at integer
    rw [signedWhole] at number
    simp only [Scalar.ofPlain, nonempty, null, boolean, String.toList_ofList, integer, number,
      Bool.or_self, Bool.false_eq_true, if_false]
  · obtain ⟨m, e, finite⟩ := nearestDecimal_finite short within literal.negative
    have float := float_text literal
    rw [toBinary64_exact short within, Option.filter_some, Binary64.isFinite, finite] at float
    rw [if_neg decimal, Option.map_none] at integer
    simp only [Scalar.ofPlain, nonempty, null, boolean, String.toList_ofList, integer, float,
      not_padded, Bool.or_self, Bool.false_eq_true, if_false, if_true]

theorem numberOf_ne_float (n : Int) (x : Binary64) : Scalar.numberOf? n ≠ some (.float x) := by
  intro same
  unfold Scalar.numberOf? at same
  split at same <;> split at same <;> cases same

/-- Numbers that both readers have exactly are finite. -/
theorem finite_of_exact {literal : Literal} {n : Number} (agreed : Exact literal)
    (denotes : literal.number? = some n) : ∀ x, n = .float x → x.isFinite = true := by
  intro x isFloat
  obtain ⟨-, number⟩ | ⟨-, short, within, decimal⟩ := exact_cases agreed denotes
  · rw [isFloat] at number
    exact absurd number (numberOf_ne_float _ x)
  · obtain ⟨m, e, finite⟩ := nearestDecimal_finite short within literal.negative
    cases isFloat.symm.trans decimal
    rw [Binary64.isFinite, finite]

end ValuePath.JsonNumbers
