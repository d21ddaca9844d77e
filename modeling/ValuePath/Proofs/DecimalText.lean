import ValuePath.Numeric.Decimal

/-! Decimal text spells the number that the standard library reads from it,
and the digits of a number spell that number again. -/
namespace ValuePath.DecimalText
open Numeric (isDecimalDigit digitValue? foldDigits decimalValue)

/-- A run of decimal digits, which may be empty. -/
def Digits (text : List Char) : Prop := ∀ c ∈ text, '0' ≤ c ∧ c ≤ '9'

theorem isDecimalDigit_iff (c : Char) : isDecimalDigit c = true ↔ '0' ≤ c ∧ c ≤ '9' := by
  simp [isDecimalDigit]

private theorem digit_value {c : Char} (digit : '0' ≤ c ∧ c ≤ '9') :
    digitValue? 10 c = some (c.toNat - '0'.toNat) := by
  have upper : c.toNat ≤ '9'.toNat := digit.2
  have small : c.toNat - '0'.toNat < 10 := by
    have : '9'.toNat = '0'.toNat + 9 := rfl
    omega
  simp only [digitValue?, digit, and_self, ↓reduceIte, Option.filter_some, small, decide_true]

theorem foldDigits_of_digits {text : List Char} (digits : Digits text) (value : Nat) :
    foldDigits 10 value text = some (Nat.ofDigitChars 10 text value) := by
  induction text generalizing value with
  | nil => rfl
  | cons c rest ih =>
    have first := digit_value (digits c List.mem_cons_self)
    have others : Digits rest := fun d member => digits d (List.mem_cons_of_mem _ member)
    rw [foldDigits, first, Nat.ofDigitChars_cons, Nat.mul_comm 10 value]
    exact ih others _

theorem decimalValue_of_digits {text : List Char} (digits : Digits text) :
    decimalValue text = Nat.ofDigitChars 10 text 0 := by
  rw [decimalValue, foldDigits_of_digits digits, Option.getD_some]

theorem digits_toDigits (n : Nat) : Digits (Nat.toDigits 10 n) := by
  intro c member
  have digit := Nat.isDigit_of_mem_toDigits (by decide) (by decide) member
  simpa [Char.isDigit, UInt32.le_iff_toNat_le, Char.le_def] using digit

end ValuePath.DecimalText
