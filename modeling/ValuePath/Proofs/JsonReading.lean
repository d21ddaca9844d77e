import Mathlib.Data.List.DropRight
import ValuePath.Proofs.JsonGrammar

/-! The reader of JSON text accepts exactly what the grammar writes, and gives
what it means. Each reader is sound, what it takes is written in the grammar, and
complete, it takes all that is written, up to where that ends. -/
namespace ValuePath.JsonReading
open Json JsonGrammar
open Numeric (Number isDecimalDigit decimalValue)

/-! ## Blanks and strings -/

theorem separator_of_mem_takeWhile {text : List Char} :
    ∀ c ∈ text.takeWhile isSeparator, isSeparator c = true :=
  fun _ member => List.mem_takeWhile_imp member

/-- What is skipped is blank. -/
theorem skipBlanks_split (text : List Char) :
    ∃ blanks : Blanks, text = blanks.val ++ skipBlanks text :=
  ⟨⟨_, separator_of_mem_takeWhile⟩, List.takeWhile_append_dropWhile.symm⟩

/-- Blanks are skipped up to where none follows. -/
theorem skipBlanks_blanks (blanks : Blanks) {text : List Char}
    (ends : ∀ c ∈ text.head?, isSeparator c = false) :
    skipBlanks (blanks.val ++ text) = text := by
  rw [skipBlanks, List.dropWhile_append_of_pos blanks.property]
  cases text with
  | nil => rfl
  | cons c rest => rw [List.dropWhile_cons_of_neg (by simp [ends c rfl])]

theorem skipBlanks_cons (blanks : Blanks) {c : Char} (visible : isSeparator c = false)
    (rest : List Char) : skipBlanks (blanks.val ++ c :: rest) = c :: rest :=
  skipBlanks_blanks blanks (by simp [visible])

theorem quoted_append (pieces : List Piece) (rest : List Char) :
    quoted pieces ++ rest = '"' :: (pieces.flatMap Piece.text ++ '"' :: rest) := by
  simp [quoted]

/-- The text spells these characters up to a closing quote, with this rest behind it. -/
private def Spells (text chars rest : List Char) : Prop :=
  ∃ pieces : List Piece, text = pieces.flatMap Piece.text ++ '"' :: rest ∧
    chars = pieces.map Piece.char

private theorem spells_cons (piece : Piece) {more chars rest : List Char} {c : Char}
    (stands : piece.char = c)
    (spells : ∀ others after, readString? more = some (others, after) →
      Spells more others after)
    (read : (readString? more).map (fun (others, after) => (c :: others, after)) =
      some (chars, rest)) : Spells (piece.text ++ more) chars rest := by
  obtain ⟨⟨others, after⟩, inside, same⟩ := Option.map_eq_some_iff.mp read
  obtain ⟨pieces, rfl, rfl⟩ := spells others after inside
  cases same
  exact ⟨piece :: pieces, by simp, by simp [stands]⟩

/-- What the reader of strings takes is spelt by pieces. -/
theorem readString_sound {text chars rest : List Char}
    (read : readString? text = some (chars, rest)) :
    ∃ pieces : List Piece, text = pieces.flatMap Piece.text ++ '"' :: rest ∧
      chars = pieces.map Piece.char := by
  change Spells text chars rest
  fun_induction readString? text generalizing chars rest with
  | case1 rest =>
    cases read
    exact ⟨[], rfl, rfl⟩
  | case3 a b c d e f g h more high first halves low second half ih =>
    exact spells_cons (.pair a b c d e f g h high low ⟨first, second⟩ ⟨halves, half⟩) rfl
      (fun _ _ => ih) read
  | case7 a b c d e f g h more code first high low ih =>
    exact spells_cons (.unit a b c d code first ⟨by simpa using high, by simpa using low⟩) rfl
      (fun _ _ => ih) read
  | case10 a b c d more _ code first halves ih =>
    exact spells_cons (.unit a b c d code first (by simpa using halves)) rfl (fun _ _ => ih) read
  | case11 letter more _ _ c escaped ih =>
    exact spells_cons (.letter letter c escaped) rfl (fun _ _ => ih) read
  | case14 c more quote _ _ _ bare ih =>
    exact spells_cons (.plain c (by simp_all)) rfl (fun _ _ => ih) read
  | _ => cases read

/-- A character by its number, whatever follows it. -/
private theorem readString_unit {a b c d : Char} {code : Nat} (first : hexUnit? a b c d = some code)
    (whole : isHighHalf code = false ∧ isLowHalf code = false) (more : List Char) :
    readString? ('\\' :: 'u' :: a :: b :: c :: d :: more) =
      (readString? more).map fun (others, after) => (Char.ofNat code :: others, after) := by
  rw [readString?.eq_def]
  split
  · rename_i same
    cases same
  · rename_i same
    cases same
    simp [first, whole.1, whole.2]
  · rename_i same
    cases same
    simp [first, whole.1, whole.2]
  · rename_i absurd same
    cases same
    exact (absurd a b c d more rfl rfl).elim
  · rename_i absurd same
    cases same
    exact (absurd _ _ rfl rfl).elim
  · rename_i same
    cases same

private theorem readString_letter {letter c : Char} (escaped : escapedChar? letter = some c)
    (more : List Char) : readString? ('\\' :: letter :: more) =
      (readString? more).map fun (others, after) => (c :: others, after) := by
  have other : letter ≠ 'u' := by
    rintro rfl
    cases escaped
  rw [readString?.eq_def]
  split
  case h_5 alone same =>
    cases same
    exact (alone _ _ rfl rfl).elim
  all_goals simp_all

private theorem readString_plain {c : Char} (bare : 0x20 ≤ c.toNat ∧ c ≠ '"' ∧ c ≠ '\\')
    (more : List Char) : readString? (c :: more) =
      (readString? more).map fun (others, after) => (c :: others, after) := by
  obtain ⟨control, quote, backslash⟩ := bare
  rw [readString?.eq_def]
  split
  case h_5 same =>
    cases same
    simp [Nat.not_lt.mpr control, backslash]
  all_goals simp_all

/-- The reader of strings takes every spelling, up to the closing quote. -/
theorem readString_complete (pieces : List Piece) (rest : List Char) :
    readString? (pieces.flatMap Piece.text ++ '"' :: rest) =
      some (pieces.map Piece.char, rest) := by
  induction pieces with
  | nil => rw [List.flatMap_nil, List.nil_append, readString?]; rfl
  | cons piece pieces ih =>
    rw [List.flatMap_cons, List.append_assoc]
    cases piece with
    | plain c bare =>
      rw [Piece.text, List.singleton_append, readString_plain bare, ih]
      rfl
    | letter l c escaped =>
      simp only [Piece.text, List.cons_append, List.nil_append]
      rw [readString_letter escaped, ih]
      rfl
    | unit a b c d code first whole =>
      simp only [Piece.text, List.cons_append, List.nil_append]
      rw [readString_unit first whole, ih]
      rfl
    | pair a b c d e f g h high low spelt halves =>
      simp only [Piece.text, List.cons_append, List.nil_append]
      rw [readString?, spelt.1, spelt.2]
      simp [halves.1, halves.2, ih, Piece.char]

/-! ## Numbers -/

theorem digit_of_mem_takeWhile {text : List Char} :
    ∀ c ∈ text.takeWhile isDecimalDigit, isDecimalDigit c = true :=
  fun _ member => List.mem_takeWhile_imp member

/-- Digits are taken up to where none follows. -/
theorem span_digits (digits : Digits) {rest : List Char}
    (ends : ∀ c ∈ rest.head?, isDecimalDigit c = false) :
    (digits.val ++ rest).takeWhile isDecimalDigit = digits.val ∧
      (digits.val ++ rest).dropWhile isDecimalDigit = rest := by
  rw [List.takeWhile_append_of_pos digits.property.2,
    List.dropWhile_append_of_pos digits.property.2]
  cases rest with
  | nil => simp
  | cons c rest => simp [ends c rfl]

/-- Digits at the front of a text, where there are some. -/
private theorem digits_of_takeWhile {text : List Char}
    (some_digits : (text.takeWhile isDecimalDigit).isEmpty = false) :
    ∃ digits : Digits, digits.val = text.takeWhile isDecimalDigit ∧
      text = digits.val ++ text.dropWhile isDecimalDigit :=
  ⟨⟨_, by simpa [List.isEmpty_iff] using some_digits, digit_of_mem_takeWhile⟩, rfl,
    List.takeWhile_append_dropWhile.symm⟩

theorem readWhole_sound {text digits rest : List Char}
    (read : readWhole? text = some (digits, rest)) :
    ∃ whole : Digits, whole.val = digits ∧ text = digits ++ rest ∧
      (whole.val.head? = some '0' → whole.val = ['0']) := by
  rw [readWhole?.eq_def] at read
  split at read
  · split at read
    · cases read
    · cases read
      have digit : ∀ c ∈ ['0'], isDecimalDigit c = true := by
        intro c member
        rcases List.mem_singleton.mp member with rfl
        rfl
      exact ⟨⟨['0'], by simp, digit⟩, rfl, rfl, fun _ => rfl⟩
  · rename_i nonzero
    dsimp only at read
    split at read
    · cases read
    · rename_i some_digits
      obtain ⟨whole, same, split⟩ := digits_of_takeWhile (by simpa using some_digits)
      cases read
      refine ⟨whole, same, same ▸ split, fun zero => ?_⟩
      cases digits : whole.val with
      | nil => exact absurd digits whole.property.1
      | cons c others =>
        rw [digits] at zero split
        cases zero
        exact (nonzero _ split).elim

theorem readWhole_complete {whole : Digits}
    (unpadded : whole.val.head? = some '0' → whole.val = ['0']) {rest : List Char}
    (ends : ∀ c ∈ rest.head?, isDecimalDigit c = false) :
    readWhole? (whole.val ++ rest) = some (whole.val, rest) := by
  have span := span_digits whole ends
  rw [readWhole?.eq_def]
  split
  · rename_i more same
    have zero : whole.val = ['0'] := unpadded (by
      cases digits : whole.val with
      | nil => exact absurd digits whole.property.1
      | cons c others =>
        rw [digits] at same
        cases same
        rfl)
    rw [zero] at same
    cases same
    rw [zero, if_neg]
    · rfl
    · cases rest with
      | nil => simp
      | cons c others => simp [ends c rfl]
  · rw [span.1, span.2]
    simp [whole.property.1]

theorem readFraction_sound {text digits rest : List Char}
    (read : readFraction? text = some (digits, rest)) :
    ∃ fraction : Option Digits, fractionDigits fraction = digits ∧
      text = fractionText fraction ++ rest := by
  rw [readFraction?.eq_def] at read
  split at read
  · dsimp only at read
    split at read
    · cases read
    · rename_i some_digits
      obtain ⟨fraction, same, split⟩ := digits_of_takeWhile (by simpa using some_digits)
      cases read
      exact ⟨some fraction, same, by rw [fractionText, List.cons_append, ← split]⟩
  · cases read
    exact ⟨none, rfl, rfl⟩

theorem readFraction_complete (fraction : Option Digits) {rest : List Char}
    (ends : ∀ c ∈ rest.head?, isDecimalDigit c = false ∧ c ≠ '.') :
    readFraction? (fractionText fraction ++ rest) = some (fractionDigits fraction, rest) := by
  cases fraction with
  | none =>
    rw [fractionText, List.nil_append, readFraction?.eq_def]
    split
    · exact absurd rfl (ends _ rfl).2
    · rfl
  | some digits =>
    have span := span_digits digits fun c first => (ends c first).1
    rw [fractionText, List.cons_append, readFraction?]
    simp [span.1, span.2, digits.property.1, fractionDigits]

/-- The sign of an exponent, and what follows it. -/
private def signSplit : List Char → Bool × List Char
  | '-' :: more => (true, more)
  | '+' :: more => (false, more)
  | more => (false, more)

private theorem readExponent_eq {letter : Char} (exponential : letter = 'e' ∨ letter = 'E')
    (rest : List Char) : readExponent? (letter :: rest) =
      if ((signSplit rest).2.takeWhile isDecimalDigit).isEmpty then none
      else some (some ((signSplit rest).1, (signSplit rest).2.takeWhile isDecimalDigit),
        (signSplit rest).2.dropWhile isDecimalDigit) := by
  rcases exponential with rfl | rfl <;> rfl

private theorem signSplit_sound (text : List Char) :
    ∃ sign : Option Char, (∀ c ∈ sign, c = '+' ∨ c = '-') ∧
      (signSplit text).1 = (sign == some '-') ∧ text = sign.toList ++ (signSplit text).2 := by
  rw [signSplit.eq_def]
  split
  · exact ⟨some '-', by simp, rfl, rfl⟩
  · exact ⟨some '+', by simp, rfl, rfl⟩
  · exact ⟨none, by simp, rfl, rfl⟩

private theorem signSplit_complete (exponent : Exponent) (rest : List Char) :
    signSplit (exponent.sign.toList ++ (exponent.digits.val ++ rest)) =
      (exponent.negative, exponent.digits.val ++ rest) := by
  obtain ⟨letter, letter_eq, sign, sign_eq, ⟨digits, nonempty, all⟩⟩ := exponent
  cases sign with
  | some c =>
    rcases sign_eq c rfl with rfl | rfl <;> rfl
  | none =>
    cases digits with
    | nil => exact absurd rfl nonempty
    | cons c others =>
      have digit := all c List.mem_cons_self
      rw [Option.toList_none, List.nil_append, signSplit.eq_def]
      split
      · rename_i same
        cases same
        cases digit
      · rename_i same
        cases same
        cases digit
      · rfl

theorem readExponent_sound {text rest : List Char} {read : Option (Bool × List Char)}
    (reads : readExponent? text = some (read, rest)) :
    ∃ exponent : Option Exponent, text = exponentText exponent ++ rest ∧
      read = exponent.map fun exponent => (exponent.negative, exponent.digits.val) := by
  have letter {c : Char} (exponential : c = 'e' ∨ c = 'E') (more : List Char)
      (reads : readExponent? (c :: more) = some (read, rest)) :
      ∃ exponent : Option Exponent, c :: more = exponentText exponent ++ rest ∧
        read = exponent.map fun exponent => (exponent.negative, exponent.digits.val) := by
    rw [readExponent_eq exponential] at reads
    split at reads
    · cases reads
    · rename_i some_digits
      obtain ⟨sign, sign_eq, negative, signed⟩ := signSplit_sound more
      obtain ⟨digits, same, split⟩ := digits_of_takeWhile (by simpa using some_digits)
      cases reads
      refine ⟨some ⟨c, exponential, sign, sign_eq, digits⟩, ?_, ?_⟩
      · rw [exponentText, Exponent.text, List.cons_append, List.append_assoc, ← split,
          ← signed]
      · rw [negative, ← same]
        rfl
  cases text with
  | nil =>
    cases reads
    exact ⟨none, rfl, rfl⟩
  | cons c more =>
    by_cases exponential : c = 'e' ∨ c = 'E'
    · exact letter exponential more reads
    · rw [readExponent?.eq_def] at reads
      split at reads
      · simp_all
      · simp_all
      · cases reads
        exact ⟨none, rfl, rfl⟩

theorem readExponent_complete (exponent : Option Exponent) {rest : List Char}
    (ends : ∀ c ∈ rest.head?, isDecimalDigit c = false ∧ c ≠ 'e' ∧ c ≠ 'E') :
    readExponent? (exponentText exponent ++ rest) =
      some (exponent.map fun exponent => (exponent.negative, exponent.digits.val), rest) := by
  cases exponent with
  | none =>
    rw [exponentText, List.nil_append, readExponent?.eq_def]
    split
    · exact absurd rfl (ends _ rfl).2.1
    · exact absurd rfl (ends _ rfl).2.2
    · rfl
  | some exponent =>
    have span := span_digits exponent.digits fun c first => (ends c first).1
    rw [exponentText, Exponent.text, List.cons_append, List.append_assoc,
      readExponent_eq exponent.letter_eq, signSplit_complete, span.1, span.2]
    simp [exponent.digits.property.1]

private theorem ends_number {rest : List Char} (ends : Ends rest) :
    ∀ c ∈ rest.head?, isDecimalDigit c = false ∧ c ≠ '.' ∧ c ≠ 'e' ∧ c ≠ 'E' := by
  intro c first
  rcases ends c first with blank | rfl | rfl | rfl
  · simp only [isSeparator, Bool.or_eq_true, beq_iff_eq] at blank
    rcases blank with ((rfl | rfl) | rfl) | rfl <;> decide
  all_goals decide

/-- The number that the reader makes of the parts of a literal. -/
private theorem number_of_parts {text : List Char} {literal : Literal} {rest : List Char}
    (negative : (text.head? == some '-') = literal.negative)
    (whole : readWhole? (if literal.negative then text.tail else text) =
      some (literal.whole.val,
        fractionText literal.fraction ++ exponentText literal.exponent ++ rest))
    (fraction : readFraction?
        (fractionText literal.fraction ++ exponentText literal.exponent ++ rest) =
      some (fractionDigits literal.fraction, exponentText literal.exponent ++ rest))
    (exponent : readExponent? (exponentText literal.exponent ++ rest) =
      some (literal.exponent.map fun exponent => (exponent.negative, exponent.digits.val), rest)) :
    readNumber? text = literal.number?.map (·, rest) := by
  have no_fraction : (fractionDigits literal.fraction).isEmpty = literal.fraction.isNone := by
    cases literal.fraction with
    | none => rfl
    | some digits => simpa [fractionDigits] using digits.property.1
  simp only [readNumber?, Literal.number?, negative, whole, fraction, exponent, no_fraction,
    Option.isNone_map]
  split
  · rfl
  · cases literal.exponent with
    | none => rfl
    | some exponent => cases sign : exponent.negative <;> simp [Exponent.value, sign]

/-- What the reader of numbers takes is a literal with that number. -/
theorem readNumber_sound {text rest : List Char} {n : Number}
    (read : readNumber? text = some (n, rest)) :
    ∃ literal : Literal, text = literal.text ++ rest ∧ literal.number? = some n := by
  have unfolded := read
  simp only [readNumber?] at unfolded
  split at unfolded
  · cases unfolded
  rename_i whole afterWhole wholeRead
  split at unfolded
  · cases unfolded
  rename_i fractionRead afterFraction fractionReads
  split at unfolded
  · cases unfolded
  rename_i exponentRead afterExponent exponentReads
  have ended : afterExponent = rest := by
    split at unfolded
    · cases unfolded
      rfl
    · obtain ⟨_, _, same⟩ := Option.map_eq_some_iff.mp unfolded
      cases same
      rfl
  subst ended
  obtain ⟨digits, rfl, wholeText, unpadded⟩ := readWhole_sound wholeRead
  obtain ⟨fraction, rfl, rfl⟩ := readFraction_sound fractionReads
  obtain ⟨exponent, rfl, rfl⟩ := readExponent_sound exponentReads
  let literal : Literal := ⟨text.head? == some '-', digits, unpadded, fraction, exponent⟩
  have parts : readNumber? text = literal.number?.map (·, afterExponent) :=
    number_of_parts rfl (by simpa [literal] using wholeRead)
      (by simpa [literal] using fractionReads) exponentReads
  rw [parts] at read
  obtain ⟨_, number, same⟩ := Option.map_eq_some_iff.mp read
  cases same
  refine ⟨literal, ?_, number⟩
  have signed : text = (if text.head? == some '-' then ['-'] else []) ++
      (if text.head? == some '-' then text.tail else text) := by
    cases text with
    | nil => rfl
    | cons c more =>
      by_cases minus : c = '-' <;> simp [minus]
  rw [signed, wholeText]
  simp [literal, Literal.text]

private theorem head_whole (literal : Literal) (rest : List Char) :
    (literal.whole.val ++ rest).head? ≠ some '-' := by
  obtain ⟨digits, nonempty, all⟩ := literal.whole
  cases digits with
  | nil => exact absurd rfl nonempty
  | cons c others =>
    rintro minus
    cases minus
    exact absurd (all '-' List.mem_cons_self) (by decide)

/-- The reader of numbers takes every literal that has a number, where the text
after it ends a number. -/
theorem readNumber_complete {literal : Literal} {n : Number} (number : literal.number? = some n)
    {rest : List Char} (ends : Ends rest) :
    readNumber? (literal.text ++ rest) = some (n, rest) := by
  have follows := ends_number ends
  have exponentEnds : ∀ c ∈ (exponentText literal.exponent ++ rest).head?,
      isDecimalDigit c = false ∧ c ≠ '.' := by
    cases literal.exponent with
    | none => exact fun c first => ⟨(follows c first).1, (follows c first).2.1⟩
    | some exponent =>
      intro c first
      cases first
      rcases exponent.letter_eq with letter | letter <;> rw [letter] <;> decide
  have wholeEnds : ∀ c ∈
      (fractionText literal.fraction ++ exponentText literal.exponent ++ rest).head?,
      isDecimalDigit c = false := by
    cases literal.fraction with
    | none => exact fun c first => (exponentEnds c first).1
    | some digits =>
      intro c first
      cases first
      decide
  have whole := readWhole_complete literal.unpadded wholeEnds
  have negative : ((literal.text ++ rest).head? == some '-') = literal.negative := by
    cases sign : literal.negative with
    | true => simp [Literal.text, sign]
    | false =>
      have head := head_whole literal
        (fractionText literal.fraction ++ exponentText literal.exponent ++ rest)
      simpa [Literal.text, sign] using head
  rw [number_of_parts negative ?_ (by
      rw [List.append_assoc]
      exact readFraction_complete literal.fraction exponentEnds)
    (readExponent_complete literal.exponent fun c first =>
      ⟨(follows c first).1, (follows c first).2.2⟩), number]
  · rfl
  · cases sign : literal.negative <;> simpa [Literal.text, sign] using whole

/-! ## Values -/

theorem readWord_iff {word text rest : List Char} :
    readWord? word text = some rest ↔ text = word ++ rest := by
  rw [readWord?]
  constructor
  · intro read
    split at read
    · rename_i starts
      obtain ⟨more, rfl⟩ := List.isPrefixOf_iff_prefix.mp starts
      simpa using read
    · cases read
  · rintro rfl
    simp

theorem items_behind (blanks : Blanks) (items : Items) :
    (items.behind blanks).text = blanks.val ++ items.text ∧
      (items.behind blanks).meanings = items.meanings ∧
      (items.behind blanks).depth = items.depth := by
  cases items <;>
    simp [Items.behind, Items.text, Items.meanings, Items.depth, Blanks.append]

theorem pairs_behind (blanks : Blanks) (pairs : Pairs) :
    (pairs.behind blanks).text = blanks.val ++ pairs.text ∧
      (pairs.behind blanks).meanings = pairs.meanings ∧
      (pairs.behind blanks).depth = pairs.depth := by
  cases pairs <;>
    simp [Pairs.behind, Pairs.text, Pairs.meanings, Pairs.depth, Blanks.append]

/-- Values that are read with this fuel are written in the grammar. -/
private def ValuesSound (fuel : Nat) : Prop :=
  ∀ depth text json rest, readValue? fuel depth text = some (json, rest) →
    ∃ (before : Blanks) (source : Source), text = before.val ++ (source.text ++ rest) ∧
      source.meaning = json ∧ source.depth ≤ depth

private def ItemsSound (fuel : Nat) : Prop :=
  ∀ depth text meanings rest, readItems? fuel depth text = some (meanings, rest) →
    ∃ items : Items, text = items.text ++ ']' :: rest ∧ items.meanings = meanings ∧
      items.depth ≤ depth

private def PairsSound (fuel : Nat) : Prop :=
  ∀ depth text meanings rest, readEntries? fuel depth text = some (meanings, rest) →
    ∃ pairs : Pairs, text = pairs.text ++ '\x7d' :: rest ∧ pairs.meanings = meanings ∧
      pairs.depth ≤ depth

private theorem array_sound {fuel depth : Nat} {text rest : List Char} {json : Json}
    (sound : ItemsSound fuel)
    (read : (match skipBlanks text with
      | ']' :: after => some (array [], after)
      | inside => (readItems? fuel depth inside).map fun (items, after) => (array items, after)) =
        some (json, rest)) :
    ∃ source : Source, '[' :: text = source.text ++ rest ∧ source.meaning = json ∧
      source.depth ≤ depth + 1 := by
  obtain ⟨blanks, skipped⟩ := skipBlanks_split text
  split at read
  · rename_i after closes
    cases read
    exact ⟨.emptyArray blanks, by rw [skipped, closes]; simp [Source.text], rfl, by
      simp [Source.depth]⟩
  · obtain ⟨⟨meanings, after⟩, inside, same⟩ := Option.map_eq_some_iff.mp read
    cases same
    obtain ⟨items, written, rfl, shallow⟩ := sound _ _ _ _ inside
    obtain ⟨text_eq, meanings_eq, depth_eq⟩ := items_behind blanks items
    refine ⟨.array (items.behind blanks), ?_, by rw [Source.meaning, meanings_eq], ?_⟩
    · rw [skipped, written, Source.text, text_eq]
      simp
    · rw [Source.depth, depth_eq]
      omega

private theorem object_sound {fuel depth : Nat} {text rest : List Char} {json : Json}
    (sound : PairsSound fuel)
    (read : (match skipBlanks text with
      | '\x7d' :: after => some (object [], after)
      | inside => (readEntries? fuel depth inside).map fun (entries, after) =>
        (ofEntries entries, after)) = some (json, rest)) :
    ∃ source : Source, '\x7b' :: text = source.text ++ rest ∧ source.meaning = json ∧
      source.depth ≤ depth + 1 := by
  obtain ⟨blanks, skipped⟩ := skipBlanks_split text
  split at read
  · rename_i after closes
    cases read
    exact ⟨.emptyObject blanks, by rw [skipped, closes]; simp [Source.text], rfl, by
      simp [Source.depth]⟩
  · obtain ⟨⟨meanings, after⟩, inside, same⟩ := Option.map_eq_some_iff.mp read
    cases same
    obtain ⟨pairs, written, rfl, shallow⟩ := sound _ _ _ _ inside
    obtain ⟨text_eq, meanings_eq, depth_eq⟩ := pairs_behind blanks pairs
    refine ⟨.object (pairs.behind blanks), ?_, by rw [Source.meaning, meanings_eq], ?_⟩
    · rw [skipped, written, Source.text, text_eq]
      simp
    · rw [Source.depth, depth_eq]
      omega

private theorem values_sound {fuel : Nat} (items : ItemsSound fuel) (pairs : PairsSound fuel) :
    ValuesSound (fuel + 1) := by
  intro depth text json rest read
  obtain ⟨before, skipped⟩ := skipBlanks_split text
  suffices inner : ∃ source : Source, skipBlanks text = source.text ++ rest ∧
      source.meaning = json ∧ source.depth ≤ depth by
    obtain ⟨source, written, meaning, shallow⟩ := inner
    exact ⟨before, source, by rw [← written, ← skipped], meaning, shallow⟩
  rw [readValue?] at read
  split at read
  · rename_i more starts
    obtain ⟨after, word, same⟩ := Option.map_eq_some_iff.mp read
    cases same
    exact ⟨.null, by rw [starts, readWord_iff.mp word]; rfl, rfl, Nat.zero_le _⟩
  · rename_i more starts
    obtain ⟨after, word, same⟩ := Option.map_eq_some_iff.mp read
    cases same
    exact ⟨.boolean true, by rw [starts, readWord_iff.mp word]; rfl, rfl, Nat.zero_le _⟩
  · rename_i more starts
    obtain ⟨after, word, same⟩ := Option.map_eq_some_iff.mp read
    cases same
    exact ⟨.boolean false, by rw [starts, readWord_iff.mp word]; rfl, rfl, Nat.zero_le _⟩
  · rename_i more starts
    obtain ⟨⟨chars, after⟩, string, same⟩ := Option.map_eq_some_iff.mp read
    cases same
    obtain ⟨pieces, rfl, rfl⟩ := readString_sound string
    exact ⟨.string pieces, by rw [starts, Source.text, quoted_append], rfl, Nat.zero_le _⟩
  · rename_i more starts
    rw [starts]
    cases depth with
    | zero => cases read
    | succ depth => exact array_sound items read
  · rename_i more starts
    rw [starts]
    cases depth with
    | zero => cases read
    | succ depth => exact object_sound pairs read
  · obtain ⟨⟨n, after⟩, number, same⟩ := Option.map_eq_some_iff.mp read
    cases same
    obtain ⟨literal, written, denotes⟩ := readNumber_sound number
    exact ⟨.number literal n denotes, written, rfl, Nat.zero_le _⟩

private theorem items_sound {fuel : Nat} (values : ValuesSound fuel) (items : ItemsSound fuel) :
    ItemsSound (fuel + 1) := by
  intro depth text meanings rest read
  rw [readItems?] at read
  split at read
  · cases read
  · rename_i json afterItem itemRead
    obtain ⟨before, item, rfl, rfl, shallow⟩ := values _ _ _ _ itemRead
    obtain ⟨after, skipped⟩ := skipBlanks_split afterItem
    split at read
    · rename_i more comma
      obtain ⟨⟨others, _⟩, othersRead, same⟩ := Option.map_eq_some_iff.mp read
      cases same
      obtain ⟨others, rfl, rfl, others_shallow⟩ := items _ _ _ _ othersRead
      refine ⟨.more before item after others, ?_, rfl, max_le shallow others_shallow⟩
      rw [skipped, comma, Items.text]
      simp
    · rename_i _ closes
      cases read
      refine ⟨.last before item after, ?_, rfl, shallow⟩
      rw [skipped, closes, Items.text]
      simp
    · cases read

private theorem pairs_sound {fuel : Nat} (values : ValuesSound fuel) (pairs : PairsSound fuel) :
    PairsSound (fuel + 1) := by
  intro depth text meanings rest read
  obtain ⟨before, skippedBefore⟩ := skipBlanks_split text
  rw [readEntries?] at read
  split at read
  case h_2 => cases read
  rename_i quotedText opens
  split at read
  · cases read
  rename_i chars afterKey keyRead
  obtain ⟨key, rfl, rfl⟩ := readString_sound keyRead
  obtain ⟨beforeColon, skippedKey⟩ := skipBlanks_split afterKey
  split at read
  case h_2 => cases read
  rename_i afterColonText colon
  split at read
  · cases read
  rename_i json afterValue valueRead
  obtain ⟨afterColon, value, rfl, rfl, shallow⟩ := values _ _ _ _ valueRead
  obtain ⟨after, skippedValue⟩ := skipBlanks_split afterValue
  dsimp only at read
  split at read
  · rename_i more comma
    obtain ⟨⟨others, _⟩, othersRead, same⟩ := Option.map_eq_some_iff.mp read
    cases same
    obtain ⟨others, rfl, rfl, others_shallow⟩ := pairs _ _ _ _ othersRead
    refine ⟨.more before key beforeColon afterColon value after others, ?_, rfl,
      max_le shallow others_shallow⟩
    rw [skippedBefore, opens, skippedKey, colon, skippedValue, comma, Pairs.text]
    simp [quoted]
  · rename_i _ closes
    cases read
    refine ⟨.last before key beforeColon afterColon value after, ?_, rfl, shallow⟩
    rw [skippedBefore, opens, skippedKey, colon, skippedValue, closes, Pairs.text]
    simp [quoted]
  · cases read

/-- What the readers take is written in the grammar. -/
private theorem readers_sound (fuel : Nat) :
    ValuesSound fuel ∧ ItemsSound fuel ∧ PairsSound fuel := by
  induction fuel with
  | zero =>
    refine ⟨?_, ?_, ?_⟩
    all_goals
      intro depth text value rest read
      cases read
  | succ fuel ih =>
    obtain ⟨values, items, pairs⟩ := ih
    exact ⟨values_sound items pairs, items_sound values items, pairs_sound values pairs⟩

theorem ends_close {blanks : Blanks} {c : Char} (closes : c = ',' ∨ c = ']' ∨ c = '\x7d')
    (rest : List Char) : Ends (blanks.val ++ c :: rest) := by
  obtain ⟨blanks, all⟩ := blanks
  intro d first
  cases blanks with
  | nil =>
    cases first
    exact .inr closes
  | cons blank others =>
    cases first
    exact .inl (all _ List.mem_cons_self)

/-- A number begins with its sign or with a digit. -/
theorem literal_head (literal : Literal) :
    ∃ c more, literal.text = c :: more ∧ (c = '-' ∨ isDecimalDigit c = true) := by
  rw [Literal.text]
  cases literal.negative with
  | true => exact ⟨_, _, rfl, .inl rfl⟩
  | false =>
    obtain ⟨digits, nonempty, all⟩ := literal.whole
    cases digits with
    | nil => exact absurd rfl nonempty
    | cons c others => exact ⟨_, _, rfl, .inr (all c List.mem_cons_self)⟩

/-- No value begins with a blank or with a bracket that closes. -/
theorem source_head (source : Source) :
    ∃ c more, source.text = c :: more ∧ isSeparator c = false ∧ c ≠ ']' := by
  cases source with
  | null | string | emptyArray | array | emptyObject | object =>
    exact ⟨_, _, rfl, by decide, by decide⟩
  | boolean value => cases value <;> exact ⟨_, _, rfl, by decide, by decide⟩
  | number literal n denotes =>
    obtain ⟨c, more, written, minus | digit⟩ := literal_head literal
    · subst minus
      exact ⟨_, _, written, by decide, by decide⟩
    · refine ⟨c, more, written, ?_, ?_⟩
      · simp only [isSeparator, Bool.or_eq_false_iff, beq_eq_false_iff_ne]
        refine ⟨⟨⟨?_, ?_⟩, ?_⟩, ?_⟩ <;> rintro rfl <;> cases digit
      · rintro rfl
        cases digit

theorem skipBlanks_idem (text : List Char) : skipBlanks (skipBlanks text) = skipBlanks text := by
  exact List.dropWhile_idempotent _ _

private theorem readValue_skip (fuel depth : Nat) (text : List Char) :
    readValue? fuel depth (skipBlanks text) = readValue? fuel depth text := by
  cases fuel with
  | zero => rfl
  | succ fuel => rw [readValue?, readValue?, skipBlanks_idem]

private theorem readItems_skip (fuel depth : Nat) (text : List Char) :
    readItems? fuel depth (skipBlanks text) = readItems? fuel depth text := by
  cases fuel with
  | zero => rfl
  | succ fuel => rw [readItems?, readItems?, readValue_skip]

private theorem readEntries_skip (fuel depth : Nat) (text : List Char) :
    readEntries? fuel depth (skipBlanks text) = readEntries? fuel depth text := by
  cases fuel with
  | zero => rfl
  | succ fuel => rw [readEntries?, readEntries?, skipBlanks_idem]

/-- The blanks in front of a value are passed over. -/
private theorem skipBlanks_source (source : Source) (before : Blanks) (rest : List Char) :
    skipBlanks (before.val ++ (source.text ++ rest)) = source.text ++ rest := by
  obtain ⟨c, more, head, blank, -⟩ := source_head source
  exact skipBlanks_blanks before (by simp [head, blank])

/-- The items of an array do not begin with its end. -/
private theorem skipBlanks_items (items : Items) (rest : List Char) :
    ∃ c more, skipBlanks (items.text ++ rest) = c :: more ∧ c ≠ ']' := by
  cases items with
  | last before item after =>
    obtain ⟨c, more, head, -, open_⟩ := source_head item
    exact ⟨c, _, by
      rw [Items.text, List.append_assoc, List.append_assoc, skipBlanks_source, head]
      rfl, open_⟩
  | more before item after others =>
    obtain ⟨c, more, head, -, open_⟩ := source_head item
    exact ⟨c, _, by
      rw [Items.text, List.append_assoc, List.append_assoc, skipBlanks_source, head]
      rfl, open_⟩

/-- The pairs of an object begin with a quote. -/
private theorem skipBlanks_pairs (pairs : Pairs) (rest : List Char) :
    ∃ more, skipBlanks (pairs.text ++ rest) = '"' :: more := by
  cases pairs <;> exact ⟨_, by
    rw [Pairs.text, List.append_assoc, List.append_assoc, quoted_append]
    exact skipBlanks_cons _ (c := '"') (by decide) _⟩

private theorem number_complete {literal : Literal} {n : Number}
    (denotes : literal.number? = some n) (before : Blanks) (fuel depth : Nat) {rest : List Char}
    (ends : Ends rest) : readValue? (fuel + 1) depth (before.val ++ (literal.text ++ rest)) =
      some (number n, rest) := by
  have read := readNumber_complete denotes ends
  have skipped := skipBlanks_source (.number literal n denotes) before rest
  obtain ⟨c, more, head, start⟩ := literal_head literal
  rw [Source.text] at skipped
  rw [readValue?, skipped]
  rw [head, List.cons_append] at read ⊢
  split
  case h_7 => rw [read]; rfl
  all_goals
    rename_i same
    cases same
    rcases start with minus | digit
    · cases minus
    · cases digit

private theorem array_complete {items : Items} {fuel depth : Nat} {rest : List Char}
    (inside : readItems? fuel depth (items.text ++ ']' :: rest) = some (items.meanings, rest))
    (before : Blanks) : readValue? (fuel + 1) (depth + 1)
      (before.val ++ ((Source.array items).text ++ rest)) = some (.array items.meanings, rest) := by
  obtain ⟨c, more, head, opens⟩ := skipBlanks_items items (']' :: rest)
  rw [← readItems_skip, head] at inside
  rw [readValue?, skipBlanks_source, Source.text, List.cons_append, List.append_assoc,
    List.singleton_append]
  simp only [head]
  split
  · rename_i same
    cases same
    exact absurd rfl opens
  · rw [inside]
    rfl

private theorem object_complete {pairs : Pairs} {fuel depth : Nat} {rest : List Char}
    (inside : readEntries? fuel depth (pairs.text ++ '\x7d' :: rest) = some (pairs.meanings, rest))
    (before : Blanks) : readValue? (fuel + 1) (depth + 1)
      (before.val ++ ((Source.object pairs).text ++ rest)) =
        some (ofEntries pairs.meanings, rest) := by
  obtain ⟨more, head⟩ := skipBlanks_pairs pairs ('\x7d' :: rest)
  rw [← readEntries_skip, head] at inside
  rw [readValue?, skipBlanks_source, Source.text, List.cons_append, List.append_assoc,
    List.singleton_append]
  simp [head, inside]

/-- The reader of pairs passes over a key, its colon and the blanks around them. -/
private theorem readEntries_key (before : Blanks) (key : List Piece) (beforeColon : Blanks)
    (more : List Char) (fuel depth : Nat) :
    readEntries? (fuel + 1) depth
      (before.val ++ (quoted key ++ (beforeColon.val ++ ':' :: more))) =
      match readValue? fuel depth more with
      | none => none
      | some (value, afterValue) =>
        match skipBlanks afterValue with
        | ',' :: more => (readEntries? fuel depth more).map fun (entries, after) =>
            ((spelt key, value) :: entries, after)
        | '\x7d' :: after => some ([(spelt key, value)], after)
        | _ => none := by
  rw [readEntries?, quoted_append, skipBlanks_cons before (by decide)]
  simp only [readString_complete]
  rw [skipBlanks_cons beforeColon (by decide)]
  rfl

mutual
/-- The reader takes every value that is not nested too deep. -/
theorem value_complete : (source : Source) → (before : Blanks) → (fuel depth : Nat) →
    (rest : List Char) → Ends rest → source.depth ≤ depth → 2 * source.text.length ≤ fuel →
    readValue? fuel depth (before.val ++ (source.text ++ rest)) = some (source.meaning, rest)
  | .null, before, fuel + 1, depth, rest, _, _, _ => by
    rw [readValue?, skipBlanks_source]
    simp [Source.text, readWord?, Source.meaning]
  | .boolean value, before, fuel + 1, depth, rest, _, _, _ => by
    rw [readValue?, skipBlanks_source]
    cases value <;> simp [Source.text, readWord?, Source.meaning]
  | .number literal n denotes, before, fuel + 1, depth, rest, ends, _, _ =>
    number_complete denotes before fuel depth ends
  | .string pieces, before, fuel + 1, depth, rest, _, _, _ => by
    rw [readValue?, skipBlanks_source, Source.text, quoted_append]
    simp [readString_complete, Source.meaning, spelt]
  | .emptyArray inside, before, fuel + 1, depth + 1, rest, _, _, _ => by
    have closes := skipBlanks_cons inside (c := ']') (by decide) rest
    rw [readValue?, skipBlanks_source, Source.text, List.cons_append, List.append_assoc,
      List.singleton_append]
    simp only [closes]
    rfl
  | .array items, before, fuel + 1, depth + 1, rest, _, shallow, enough =>
    array_complete (items_complete items fuel depth rest (by rw [Source.depth] at shallow; omega)
      (by simp [Source.text] at enough; omega)) before
  | .emptyObject inside, before, fuel + 1, depth + 1, rest, _, _, _ => by
    have closes := skipBlanks_cons inside (c := '\x7d') (by decide) rest
    rw [readValue?, skipBlanks_source, Source.text, List.cons_append, List.append_assoc,
      List.singleton_append]
    simp only [closes]
    rfl
  | .object pairs, before, fuel + 1, depth + 1, rest, _, shallow, enough =>
    object_complete (pairs_complete pairs fuel depth rest (by rw [Source.depth] at shallow; omega)
      (by simp [Source.text] at enough; omega)) before
  | source, _, 0, _, _, _, _, enough => by
    obtain ⟨c, more, head, -⟩ := source_head source
    simp [head] at enough

theorem items_complete : (items : Items) → (fuel depth : Nat) → (rest : List Char) →
    items.depth ≤ depth → 2 * items.text.length < fuel →
    readItems? fuel depth (items.text ++ ']' :: rest) = some (items.meanings, rest)
  | .last before item after, fuel + 1, depth, rest, shallow, enough => by
    rw [Items.text, List.length_append, List.length_append] at enough
    rw [Items.text, List.append_assoc, List.append_assoc, readItems?,
      value_complete item before fuel depth _ (ends_close (.inr (.inl rfl)) rest) shallow
        (by omega)]
    have closes := skipBlanks_cons after (c := ']') (by decide) rest
    simp [closes, Items.meanings]
  | .more before item after others, fuel + 1, depth, rest, shallow, enough => by
    simp only [Items.text, List.length_append, List.length_cons] at enough
    rw [Items.depth] at shallow
    simp only [Items.text, List.append_assoc, List.cons_append]
    rw [readItems?, value_complete item before fuel depth _ (ends_close (.inl rfl) _)
      (by omega) (by omega)]
    have comma := skipBlanks_cons after (c := ',') (by decide)
      (others.text ++ ']' :: rest)
    simp [comma, items_complete others fuel depth rest (by omega) (by omega), Items.meanings]

theorem pairs_complete : (pairs : Pairs) → (fuel depth : Nat) → (rest : List Char) →
    pairs.depth ≤ depth → 2 * pairs.text.length < fuel →
    readEntries? fuel depth (pairs.text ++ '\x7d' :: rest) = some (pairs.meanings, rest)
  | .last before key beforeColon afterColon value after, fuel + 1, depth, rest, shallow,
      enough => by
    simp only [Pairs.text, List.length_append, List.length_cons] at enough
    simp only [Pairs.text, List.append_assoc, List.cons_append]
    rw [readEntries_key, value_complete value afterColon fuel depth _
      (ends_close (.inr (.inr rfl)) rest) shallow (by omega)]
    have closes := skipBlanks_cons after (c := '\x7d') (by decide) rest
    simp [closes, Pairs.meanings]
  | .more before key beforeColon afterColon value after others, fuel + 1, depth, rest, shallow,
      enough => by
    simp only [Pairs.text, List.length_append, List.length_cons] at enough
    rw [Pairs.depth] at shallow
    simp only [Pairs.text, List.append_assoc, List.cons_append]
    rw [readEntries_key, value_complete value afterColon fuel depth _ (ends_close (.inl rfl) _)
      (by omega) (by omega)]
    have comma := skipBlanks_cons after (c := ',') (by decide)
      (others.text ++ '\x7d' :: rest)
    simp [comma, pairs_complete others fuel depth rest (by omega) (by omega), Pairs.meanings]
end

/-- A text is read as a document exactly if it is written in the grammar, with
arrays and objects nested at most 127 deep. -/
theorem parse_iff {text : List Char} {json : Json} :
    parse? text = some json ↔ ∃ document : Document, document.text = text ∧
      document.source.meaning = json ∧ document.source.depth ≤ depthLimit := by
  rw [parse?]
  constructor
  · intro read
    split at read
    · rename_i value rest valueRead
      obtain ⟨before, source, rfl, rfl, shallow⟩ :=
        (readers_sound _).1 _ _ _ _ valueRead
      obtain ⟨after, skipped⟩ := skipBlanks_split rest
      split at read
      · rename_i finished
        cases read
        rw [List.isEmpty_iff.mp finished, List.append_nil] at skipped
        exact ⟨⟨before, source, after⟩, by rw [Document.text, skipped], rfl, shallow⟩
      · cases read
    · cases read
  · rintro ⟨⟨before, source, after⟩, rfl, rfl, shallow⟩
    have ends : Ends after.val := by
      intro c first
      exact .inl (after.property c (List.mem_of_mem_head? first))
    have finished : skipBlanks after.val = [] := by
      have skipped : skipBlanks (after.val ++ []) = [] := skipBlanks_blanks after (by simp)
      rwa [List.append_nil] at skipped
    simp only [Document.text]
    rw [value_complete source before _ depthLimit after.val ends shallow
      (by simp only [List.length_append]; omega)]
    simp [finished]

end ValuePath.JsonReading
