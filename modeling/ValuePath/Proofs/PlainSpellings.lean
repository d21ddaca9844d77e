import ValuePath.Proofs.DecimalText
import ValuePath.Proofs.PlainLines

/-! The spellings of null, of truth values and of numbers. They are plain scalars of one line by
themselves: none of their characters means anything else in YAML, but for a dash alone. -/
namespace ValuePath.PlainSpellings
open Yaml PlainLines

/-- A character of the words and numbers that spell values. -/
def Spelling (c : Char) : Prop :=
  ('0' ≤ c ∧ c ≤ '9') ∨ ('a' ≤ c ∧ c ≤ 'z') ∨ ('A' ≤ c ∧ c ≤ 'Z') ∨ c ∈ ['+', '-', '.', '~']

instance (c : Char) : Decidable (Spelling c) := inferInstanceAs (Decidable (_ ∨ _ ∨ _ ∨ _))

section
variable {c : Char}

theorem allowed_between {low high : Char} (range : low ≤ c ∧ c ≤ high)
    (visible : 0x20 ≤ low.toNat ∧ high.toNat ≤ 0x7E) : isAllowed c = true := by
  have above : low.toNat ≤ c.toNat := range.1
  have below : c.toNat ≤ high.toNat := range.2
  have inside : 0x20 ≤ c.toNat ∧ c.toNat ≤ 0x7E := by omega
  simp [isAllowed, inside]

theorem Spelling.allowed (spelling : Spelling c) : isAllowed c = true := by
  rcases spelling with digit | small | large | sign
  · exact allowed_between digit (by decide)
  · exact allowed_between small (by decide)
  · exact allowed_between large (by decide)
  · simp only [List.mem_cons, List.not_mem_nil, or_false] at sign
    rcases sign with rfl | rfl | rfl | rfl <;> decide

theorem Spelling.solid (spelling : Spelling c) : isGap c = false := by
  rw [← Bool.not_eq_true]
  intro gap
  simp only [isGap, isSpaceOrTab, isBreak, Bool.or_eq_true, beq_iff_eq] at gap
  rcases gap with (rfl | rfl) | ((((rfl | rfl) | rfl) | rfl) | rfl) <;>
    exact absurd spelling (by decide)

theorem Spelling.unmarked (spelling : Spelling c) : c ≠ byteOrderMark := by
  rintro rfl
  exact absurd spelling (by decide)

/-- The dash alone means something by itself. -/
theorem Spelling.plain (spelling : Spelling c) : isIndicator c = false ∨ c = '-' := by
  by_cases indicator : isIndicator c = true
  · rw [isIndicator, List.contains_iff_mem] at indicator
    have kept : c ∈ List.filter (decide <| Spelling ·) _ :=
      List.mem_filter.mpr ⟨indicator, decide_eq_true spelling⟩
    exact .inr (List.mem_singleton.mp kept)
  · exact .inl (Bool.not_eq_true _ ▸ indicator)

/-- A digit of any base is such a character. -/
theorem spelling_digit {base value : Nat} (digit : Numeric.digitValue? base c = some value) :
    Spelling c := by
  rw [Numeric.digitValue?, Option.filter_eq_some_iff] at digit
  obtain ⟨found, -⟩ := digit
  split at found
  next decimal => exact .inl decimal
  next =>
    split at found
    next small => exact .inr (.inl ⟨small.1, Char.le_trans small.2 (by decide)⟩)
    next =>
      split at found
      next large => exact .inr (.inr (.inl ⟨large.1, Char.le_trans large.2 (by decide)⟩))
      next => cases found

end

/-- All characters of a text are of this kind. -/
def Spelt (text : List Char) : Prop := ∀ c ∈ text, Spelling c

instance (text : List Char) : Decidable (Spelt text) := List.decidableBAll Spelling text

theorem Spelt.nil : Spelt [] := List.forall_mem_nil _

theorem Spelt.cons {c : Char} {text : List Char} (first : Spelling c) (others : Spelt text) :
    Spelt (c :: text) := List.forall_mem_cons.mpr ⟨first, others⟩

section Numbers
open Numeric (readDigits? foldDigits isDecimalDigit)
variable {text : List Char}

theorem spelt_fold {base value n : Nat} (read : foldDigits base value text = some n) :
    Spelt text := by
  induction text generalizing value with
  | nil => exact .nil
  | cons c others ih =>
    rw [foldDigits] at read
    split at read
    next digit found => exact .cons (spelling_digit found) (ih read)
    next => cases read

theorem spelt_digits {base n : Nat} (read : readDigits? base text = some n) : Spelt text := by
  rw [readDigits?] at read
  split at read
  · cases read
  · exact spelt_fold read

theorem spelt_based {n : Nat} (read : Scalar.based? text = some n) : Spelt text := by
  rw [Scalar.based?.eq_def] at read
  split at read
  next letter digits =>
    split at read
    next base found =>
      have spelling : Spelling letter := by
        rw [Scalar.baseOf?.eq_def] at found
        split at found <;> first | decide | cases found
      exact .cons (by decide) (.cons spelling (spelt_digits read))
    next => exact spelt_digits read
  next => exact spelt_digits read

/-- What stands behind a sign that may be left out. -/
theorem spelt_behind {c : Char} (sign : Spelling c) (behind : Spelt (Scalar.behind c text)) :
    Spelt text := by
  cases text with
  | nil => exact .nil
  | cons first others =>
    rw [Scalar.behind] at behind
    split at behind
    next same => exact .cons (same ▸ sign) behind
    next => exact behind

theorem spelt_integer {n : Int} (read : Scalar.integer? text = some n) : Spelt text := by
  rw [Scalar.integer?.eq_def] at read
  split at read
  · cases read
  · split at read
    next digits =>
      obtain ⟨magnitude, based, -⟩ := Option.map_eq_some_iff.mp read
      exact .cons (by decide) (spelt_based based)
    next =>
      obtain ⟨magnitude, based, -⟩ := Option.map_eq_some_iff.mp read
      exact spelt_behind (by decide) (spelt_based based)

theorem spelt_exponent {n : Int} (read : Numeric.Decimal.readExponent? text = some n) :
    Spelt text := by
  rw [Numeric.Decimal.readExponent?.eq_def] at read
  split at read
  next negative digits shape =>
    obtain ⟨magnitude, based, -⟩ := Option.map_eq_some_iff.mp read
    split at shape <;> cases shape
    · exact .cons (by decide) (spelt_digits based)
    · exact .cons (by decide) (spelt_digits based)
    · exact spelt_digits based

/-- Digits at the front are such characters anyway. -/
theorem spelt_behind_digits (behind : Spelt (text.dropWhile isDecimalDigit)) : Spelt text := by
  have digits : Spelt (text.takeWhile isDecimalDigit) := by
    intro c member
    exact .inl ((DecimalText.isDecimalDigit_iff c).mp (List.mem_takeWhile_imp member))
  rw [← List.takeWhile_append_dropWhile (p := isDecimalDigit) (l := text)]
  exact List.forall_mem_append.mpr ⟨digits, behind⟩

/-- What may stand behind the digits of a decimal: nothing, or an exponent. -/
theorem spelt_scale {letter : Char} {more : List Char} (exponential : letter = 'e' ∨ letter = 'E')
    {f : Int → Numeric.Decimal} {d : Numeric.Decimal}
    (read : (Numeric.Decimal.readExponent? more).map f = some d) : Spelt (letter :: more) := by
  obtain ⟨exponent, found, -⟩ := Option.map_eq_some_iff.mp read
  have spelling : Spelling letter := by rcases exponential with rfl | rfl <;> decide
  exact .cons spelling (spelt_exponent found)

theorem spelt_decimal {d : Numeric.Decimal} (read : Numeric.Decimal.read? text = some d) :
    Spelt text := by
  refine spelt_behind_digits ?_
  rw [Numeric.Decimal.read?] at read
  dsimp only at read
  generalize text.dropWhile isDecimalDigit = tail at read ⊢
  split at read
  next more =>
    -- a point, with a fraction behind it
    refine .cons (by decide) (spelt_behind_digits ?_)
    dsimp only at read
    generalize more.dropWhile isDecimalDigit = rest at read ⊢
    split at read
    · cases read
    · split at read
      · exact .nil
      · exact spelt_scale (.inl rfl) read
      · exact spelt_scale (.inr rfl) read
      · cases read
  next =>
    dsimp only at read
    split at read
    · cases read
    · split at read
      · exact .nil
      · exact spelt_scale (.inl rfl) read
      · exact spelt_scale (.inr rfl) read
      · cases read

/-- A text that is one of some words. -/
theorem spelt_listed {words : List String} (all : ∀ word ∈ words, Spelt word.toList)
    (listed : words.contains (String.ofList text) = true) : Spelt text := by
  have spelt := all _ (List.contains_iff_mem.mp listed)
  rwa [String.toList_ofList] at spelt

theorem spelt_float {x : Numeric.Binary64} (read : Scalar.float? text = some x) : Spelt text := by
  rw [Scalar.float?] at read
  dsimp only at read
  split at read
  · cases read
  · split at read
    next listed =>
      exact spelt_behind (c := '+') (by decide) (spelt_listed (by decide) listed)
    next =>
      split at read
      next listed => exact spelt_listed (by decide) listed
      next =>
        split at read
        next listed => exact spelt_listed (by decide) listed
        next =>
          rw [Option.filter_eq_some_iff] at read
          obtain ⟨decimal, found, -⟩ := Option.map_eq_some_iff.mp read.1
          refine spelt_behind (c := '+') (by decide) ?_
          generalize Scalar.behind '+' text = magnitude at found ⊢
          split at found
          next negative =>
            cases magnitude with
            | nil => exact .nil
            | cons c digits =>
              have dash : c = '-' := by simpa using negative
              exact .cons (dash ▸ by decide) (spelt_decimal found)
          next => exact spelt_decimal found

end Numbers

/-- A text that spells a value consists of such characters. -/
theorem spelt_of_plain {text : String} (spells : Scalar.ofPlain text ≠ .text) :
    Spelt text.toList := by
  have listed {words : List String} (all : ∀ word ∈ words, Spelt word.toList)
      (among : words.contains text = true) : Spelt text.toList :=
    all text (List.contains_iff_mem.mp among)
  unfold Scalar.ofPlain at spells
  split at spells
  next blank =>
    rcases Bool.or_eq_true_iff.mp blank with empty | null
    · rw [String.isEmpty_iff.mp empty]
      exact .nil
    · exact listed (by decide) null
  next =>
    split at spells
    next value known =>
      rw [Scalar.boolean?] at known
      split at known
      next yes => exact listed (by decide) yes
      next =>
        split at known
        next no => exact listed (by decide) no
        next => cases known
    next =>
      cases whole : Scalar.integer? text.toList with
      | some n => exact spelt_integer whole
      | none =>
        simp only [whole] at spells
        split at spells
        · exact absurd rfl spells
        · split at spells
          next x floating => exact spelt_float floating
          next => exact absurd rfl spells

/-- A text that spells a value is a plain scalar on one line, unless it is empty. -/
theorem plainLine_of_spells {text : String} (spells : Scalar.ofPlain text ≠ .text)
    (nonempty : text.toList ≠ []) : PlainLine text.toList := by
  have spelt := spelt_of_plain spells
  have solid : ∀ c ∈ text.toList, isAllowed c = true ∧ isGap c = false :=
    fun c member => ⟨(spelt c member).allowed, (spelt c member).solid⟩
  have colon : ':' ∉ text.toList := fun member => absurd (spelt ':' member) (by decide)
  refine ⟨.last ⟨nonempty, solid, fun last => colon (List.mem_of_getLast? last)⟩, ?_, ?_⟩
  · cases chars : text.toList with
    | nil => exact absurd chars nonempty
    | cons c rest =>
      have first := spelt c (chars ▸ List.mem_cons_self)
      rcases first.plain with plain | rfl
      · exact .char plain first.unmarked
      · refine .sign (.inl rfl) ?_
        cases rest with
        | nil =>
          have dash : text = "-" := String.toList_inj.mp chars
          exact absurd (dash ▸ rfl) spells
        | cons d others => exact (solid d (chars ▸ by simp)).2
  · rintro ⟨c, rest, marker, chars, ends⟩
    have last : rest = [] := by
      cases rest with
      | nil => rfl
      | cons d others =>
        have gap : isGap d = true := ends
        have solid := (solid d (chars ▸ by simp)).2
        rw [gap] at solid
        cases solid
    have same : text = String.ofList [c, c, c] := by
      rw [← String.toList_inj, chars, last, String.toList_ofList]
    rcases marker with rfl | rfl <;> exact absurd (same ▸ by decide) spells

end ValuePath.PlainSpellings
