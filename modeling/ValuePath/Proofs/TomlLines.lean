import ValuePath.Toml.Reader
import ValuePath.Proofs.DecimalText
import ValuePath.Proofs.DistinctKeys

/-! Lines of plain settings: a bare key, an equals sign and a value that is a whole
number, a boolean or a string. A text of such lines with different keys is read as
the table of their entries, in the order of the lines. -/
namespace ValuePath.TomlLines
open Toml DecimalText
open Numeric (isDecimalDigit decimalValue)

section Runs
variable {kind : Char → Bool} {run rest : List Char} {stop : Char}

theorem takeWhile_run (all : ∀ c ∈ run, kind c = true) (ends : kind stop = false) :
    (run ++ stop :: rest).takeWhile kind = run := by
  rw [List.takeWhile_append_of_pos all, List.takeWhile_cons_of_neg (ne_true_of_eq_false ends),
    List.append_nil]

theorem dropWhile_run (all : ∀ c ∈ run, kind c = true) (ends : kind stop = false) :
    (run ++ stop :: rest).dropWhile kind = stop :: rest := by
  rw [List.dropWhile_append_of_pos all, List.dropWhile_cons_of_neg (ne_true_of_eq_false ends)]

theorem skipSpaces_cons (solid : isSpace stop = false) :
    skipSpaces (stop :: rest) = stop :: rest :=
  List.dropWhile_cons_of_neg (ne_true_of_eq_false solid)

end Runs

/-- The text is read as this value where its line ends behind it. -/
structure Spelt (text : List Char) (value : Toml) : Prop where
  solid : ∀ c ∈ text.head?, isSpace c = false
  read : ∀ fuel depth rest,
    readValue? (fuel + 1) depth (text ++ '\n' :: rest) = some (value, '\n' :: rest)

/-! ## Words -/

theorem takeWord_run {word : List Char} (run : ∀ c ∈ word, isWordChar c = true)
    (rest : List Char) : takeWord (word ++ '\n' :: rest) = (word, '\n' :: rest) := by
  have noTime : beginsTime ('\n' :: rest) = false := rfl
  rw [takeWord, takeWhile_run run rfl, dropWhile_run run rfl, noTime, Bool.and_false]
  rfl

/-- A word up to the end of its line is read as the value that it spells. -/
theorem spelt_word {word : List Char} {value : Toml} (nonempty : word ≠ [])
    (run : ∀ c ∈ word, isWordChar c = true) (spells : ofWord? word = some value) :
    Spelt word value := by
  obtain ⟨first, more, rfl⟩ := List.exists_cons_of_ne_nil nonempty
  have wordChar := run first List.mem_cons_self
  have apart (other : Char) (foreign : isWordChar other = false) : first ≠ other := by
    rintro rfl
    exact absurd wordChar (ne_true_of_eq_false foreign)
  constructor
  · rintro c ⟨⟩
    rw [isSpace, beq_eq_false_iff_ne.mpr (apart ' ' rfl), beq_eq_false_iff_ne.mpr (apart '\t' rfl)]
    rfl
  · intro fuel depth rest
    have taken := takeWord_run run rest
    rw [List.cons_append] at taken ⊢
    simp only [readValue?, apart '"' rfl, apart '\'' rfl,
      apart '[' rfl, apart '\x7b' rfl, decide_false, Bool.or_self,
      Bool.false_eq_true, ↓reduceIte, taken, spells, Option.map_some]

theorem spelt_boolean (value : Bool) :
    Spelt (if value then "true" else "false").toList (.boolean value) := by
  cases value with
  | true => exact spelt_word (List.cons_ne_nil _ _) (List.all_eq_true.mp rfl) rfl
  | false => exact spelt_word (List.cons_ne_nil _ _) (List.all_eq_true.mp rfl) rfl

/-! ## Whole numbers -/

section Digits
variable {text : List Char}

theorem ne_of_digits (digits : Digits text) {c other : Char} (member : c ∈ text)
    (foreign : isDecimalDigit other = false) : c ≠ other := by
  rintro rfl
  have digit := (isDecimalDigit_iff c).mpr (digits c member)
  exact absurd digit (ne_true_of_eq_false foreign)

theorem takeChar_digits (digits : Digits text) {c : Char} (foreign : isDecimalDigit c = false) :
    takeChar? c text = none := by
  cases text with
  | nil => rfl
  | cons first rest => exact if_neg (ne_of_digits digits List.mem_cons_self foreign)

/-- Behind a number taken off the front there are the other digits. -/
theorem takeField_digits (digits : Digits text) {width least greatest : Nat}
    {field : Nat × List Char} (taken : takeField? width least greatest text = some field) :
    Digits field.2 := by
  have dropped : field.2 = text.drop width := by
    rw [takeField?] at taken
    split at taken
    · obtain ⟨n, -, taken⟩ := Option.bind_eq_some_iff.mp taken
      obtain ⟨-, same⟩ := Option.ite_none_right_eq_some.mp taken
      rw [← Option.some.inj same]
    · cases taken
  rw [dropped]
  exact fun c member => digits c (List.mem_of_mem_drop member)

theorem skipTime_digits (digits : Digits text) : skipTime? text = none := by
  rw [skipTime?]
  cases taken : takeField? 2 0 23 text with
  | none => rfl
  | some field =>
    have noColon : takeChar? ':' field.2 = none :=
      takeChar_digits (takeField_digits digits taken) rfl
    simp only [Option.bind_eq_bind, Option.bind_some, noColon, Option.bind_none]

theorem skipDate_digits (digits : Digits text) : skipDate? text = none := by
  rw [skipDate?]
  cases taken : takeField? 4 0 9999 text with
  | none => rfl
  | some field =>
    have noDash : takeChar? '-' field.2 = none :=
      takeChar_digits (takeField_digits digits taken) rfl
    simp only [Option.bind_eq_bind, Option.bind_some, noDash, Option.bind_none]

theorem isDateTime_digits (digits : Digits text) : isDateTime text = false := by
  rw [isDateTime, skipTime_digits digits, skipDate_digits digits]
  rfl

theorem joinDigits_digits (digits : Digits text) (nonempty : text ≠ []) :
    joinDigits? isDecimalDigit text = some text := by
  induction text with
  | nil => exact absurd rfl nonempty
  | cons c rest ih =>
    have digit := (isDecimalDigit_iff c).mpr (digits c List.mem_cons_self)
    have others : Digits rest := fun d member => digits d (List.mem_cons_of_mem _ member)
    cases rest with
    | nil => simp only [joinDigits?, digit, ↓reduceIte]
    | cons d more =>
      have plain : d ≠ '_' := ne_of_digits others List.mem_cons_self rfl
      have joined := ih others (List.cons_ne_nil d more)
      have alone : ∀ rest, d :: more = '_' :: rest → False :=
        fun _ same => plain (List.cons.inj same).1
      rw [joinDigits?.eq_4 _ c (d :: more) (List.cons_ne_nil d more) alone, digit, joined]
      rfl

/-- Digits are a number without a sign in front, in base ten. -/
theorem readInteger_digits (digits : Digits text) (nonempty : text ≠ [])
    (leading : text.length = 1 ∨ text.head? ≠ some '0')
    (bound : Nat.ofDigitChars 10 text 0 < 2 ^ 63) :
    readInteger? text = some (Int64.ofInt (Nat.ofDigitChars 10 text 0)) := by
  have unsigned : splitSign text = (false, text) := by
    rw [splitSign.eq_def]
    split
    · exact absurd rfl (ne_of_digits digits List.mem_cons_self rfl)
    · exact absurd rfl (ne_of_digits digits List.mem_cons_self rfl)
    · rfl
  have whole : wholeDigits? text = some text := by
    rw [wholeDigits?, joinDigits_digits digits nonempty]
    simpa using leading
  have least : Int64.minValue.toInt ≤ (Nat.ofDigitChars 10 text 0 : Int) := by
    have : Int64.minValue.toInt = -2 ^ 63 := rfl
    omega
  have greatest : (Nat.ofDigitChars 10 text 0 : Int) ≤ Int64.maxValue.toInt := by
    have : Int64.maxValue.toInt = 2 ^ 63 - 1 := rfl
    omega
  rw [readInteger?.eq_def]
  -- The letter of another base would be among the digits.
  split
  · exact absurd rfl (ne_of_digits digits (List.mem_cons_of_mem _ List.mem_cons_self) rfl)
  · exact absurd rfl (ne_of_digits digits (List.mem_cons_of_mem _ List.mem_cons_self) rfl)
  · exact absurd rfl (ne_of_digits digits (List.mem_cons_of_mem _ List.mem_cons_self) rfl)
  · simp only [unsigned, whole, Option.map_some, decimalValue_of_digits digits,
      Bool.false_eq_true, ↓reduceIte, Option.filter_some, least, greatest, decide_true,
      Bool.and_self]

end Digits

/-- No number but zero begins with a zero. -/
theorem head_toDigits {n : Nat} (positive : 0 < n) : (Nat.toDigits 10 n).head? ≠ some '0' := by
  induction n using Nat.strong_induction_on with
  | _ n ih =>
    by_cases small : n < 10
    · rw [Nat.toDigits_of_lt_base small]
      have nonzero : ∀ m < 10, 0 < m → some (Nat.digitChar m) ≠ some '0' := by decide
      exact nonzero n small positive
    · have shorter := ih (n / 10) (by omega) (by omega)
      rwa [Nat.toDigits_of_base_le (by decide) (by omega),
        List.head?_append_of_ne_nil _ Nat.toDigits_ne_nil]

theorem spelt_natural {n : Nat} (bound : n < 2 ^ 63) :
    Spelt (Nat.toDigits 10 n) (.integer (Int64.ofInt n)) := by
  have digits := digits_toDigits n
  have value : Nat.ofDigitChars 10 (Nat.toDigits 10 n) 0 = n := Nat.ofDigitChars_ten_toDigits
  have leading : (Nat.toDigits 10 n).length = 1 ∨ (Nat.toDigits 10 n).head? ≠ some '0' := by
    rcases Nat.eq_zero_or_pos n with rfl | positive
    · exact .inl rfl
    · exact .inr (head_toDigits positive)
  have read := readInteger_digits digits Nat.toDigits_ne_nil leading (by rwa [value])
  rw [value] at read
  have noWord {first : Char} {more : List Char} (foreign : isDecimalDigit first = false) :
      Nat.toDigits 10 n ≠ first :: more := by
    intro same
    have member : first ∈ Nat.toDigits 10 n := same ▸ List.mem_cons_self
    exact absurd rfl (ne_of_digits digits member foreign)
  refine spelt_word Nat.toDigits_ne_nil ?_ ?_
  · intro c member
    rw [isWordChar, (isDecimalDigit_iff c).mpr (digits c member)]
    rfl
  · rw [ofWord?, if_neg (noWord rfl), if_neg (noWord rfl), isDateTime_digits digits, read]
    rfl

/-! ## Strings -/

/-- A character that stands for itself between double quotes. -/
def Plain (c : Char) : Prop := isVisible c = true ∧ c ≠ '"' ∧ c ≠ '\\'

section Strings
variable {text : List Char}

theorem readLine_plain (plain : ∀ c ∈ text, Plain c) (fuel : Nat) (enough : text.length < fuel)
    (rest : List Char) : readLine? '"' true fuel (text ++ '"' :: rest) = some (text, rest) := by
  induction text generalizing fuel with
  | nil =>
    obtain ⟨fuel, rfl⟩ := Nat.exists_eq_add_one_of_ne_zero (Nat.ne_zero_of_lt enough)
    rfl
  | cons c more ih =>
    obtain ⟨fuel, rfl⟩ := Nat.exists_eq_add_one_of_ne_zero (Nat.ne_zero_of_lt enough)
    obtain ⟨visible, noQuote, noEscape⟩ := plain c List.mem_cons_self
    have others := ih (fun d member => plain d (List.mem_cons_of_mem _ member)) fuel
      (Nat.lt_of_succ_lt_succ enough)
    simp [readLine?, noQuote, noEscape, visible, others]

theorem readAnyString_plain (plain : ∀ c ∈ text, Plain c) (rest : List Char) :
    readAnyString? ('"' :: (text ++ '"' :: '\n' :: rest)) =
      some (String.ofList text, '\n' :: rest) := by
  have single : readString? ('"' :: (text ++ '"' :: '\n' :: rest)) =
      some (String.ofList text, '\n' :: rest) := by
    have enough : text.length < (text ++ '"' :: '\n' :: rest).length + 1 := by
      rw [List.length_append]
      omega
    have line := readLine_plain plain _ enough ('\n' :: rest)
    simp only [readString?, decide_true, Bool.true_or, ↓reduceIte, line, Option.map_some]
  -- Only three quotes in a row would begin a string of several lines.
  rw [readAnyString?.eq_def]
  split
  · rename_i a b c after same
    have untripled : ¬(b = a ∧ c = a) := by
      rintro ⟨rfl, rfl⟩
      obtain ⟨rfl, behind⟩ := List.cons.inj same
      cases text with
      | nil => exact absurd (List.cons.inj (List.cons.inj behind).2).1 (by decide)
      | cons d more => exact (plain d List.mem_cons_self).2.1 (List.cons.inj behind).1
    rw [← same, single, if_neg]
    simpa using fun _ => untripled
  · exact single

theorem spelt_string (plain : ∀ c ∈ text, Plain c) :
    Spelt ('"' :: (text ++ ['"'])) (.string (String.ofList text)) := by
  constructor
  · rintro c ⟨⟩
    rfl
  · intro fuel depth rest
    have read := readAnyString_plain plain rest
    simp [readValue?, read]

end Strings

/-! ## Lines -/

/-- A line with a key and a value, as they are written. -/
structure Line where
  key : String
  text : List Char
  value : Toml
  named : key.toList ≠ []
  bare : ∀ c ∈ key.toList, isBareKeyChar c = true
  spelt : Spelt text value

namespace Line

/-- The characters of a line, with the end of the line. -/
def written (line : Line) : List Char :=
  line.key.toList ++ ' ' :: '=' :: ' ' :: (line.text ++ ['\n'])

def entry (line : Line) : String × Toml := (line.key, line.value)

variable (line : Line)

/-- A line begins with a character of its key. -/
theorem written_cons : ∃ first more, isBareKeyChar first = true ∧
    ∀ rest, line.written ++ rest = first :: (more ++ rest) := by
  obtain ⟨first, more, same⟩ := List.exists_cons_of_ne_nil line.named
  refine ⟨first, more ++ ' ' :: '=' :: ' ' :: (line.text ++ ['\n']), ?_, ?_⟩
  · exact line.bare first (same ▸ List.mem_cons_self)
  · intro rest
    rw [written, same, List.cons_append, List.cons_append]

theorem written_append (rest : List Char) : line.written ++ rest =
    line.key.toList ++ ' ' :: '=' :: ' ' :: (line.text ++ '\n' :: rest) := by
  simp [written]

end Line

/-- What no key holds does not begin a line. -/
theorem ne_of_bare {c : Char} (bare : isBareKeyChar c = true) (other : Char)
    (foreign : isBareKeyChar other = false) : c ≠ other := by
  rintro rfl
  exact absurd bare (ne_true_of_eq_false foreign)

theorem isSpace_of_bare {c : Char} (bare : isBareKeyChar c = true) : isSpace c = false := by
  rw [isSpace, beq_eq_false_iff_ne.mpr (ne_of_bare bare _ rfl),
    beq_eq_false_iff_ne.mpr (ne_of_bare bare _ rfl)]
  rfl

/-- There is nothing to pass over in front of a key. -/
theorem skipLines_bare {first : Char} (bare : isBareKeyChar first = true) (fuel : Nat)
    (rest : List Char) : skipLines (fuel + 1) (first :: rest) = first :: rest := by
  have noComment : skipComment (first :: rest) = first :: rest := by
    simp [skipComment, ne_of_bare bare '#' rfl]
  have noEnd : skipNewline? (first :: rest) = none := by
    simp [skipNewline?, ne_of_bare bare '\n' rfl, ne_of_bare bare '\r' rfl]
  rw [skipLines, skipSpaces_cons (isSpace_of_bare bare), noComment, noEnd]

section Reading
variable (line : Line) (rest : List Char)

theorem readKey_line : readKey? (line.written ++ rest) =
    some ([line.key], '=' :: ' ' :: (line.text ++ '\n' :: rest)) := by
  obtain ⟨first, more, bare, begins⟩ := line.written_cons
  have step : readStep? (line.written ++ rest) =
      some (line.key, '=' :: ' ' :: (line.text ++ '\n' :: rest)) := by
    have solid : skipSpaces (line.written ++ rest) = line.written ++ rest := by
      rw [begins, skipSpaces_cons (isSpace_of_bare bare)]
    have isBare : (line.written ++ rest).head?.any isBareKeyChar = true := by
      rw [begins]
      exact bare
    rw [readStep?, solid, if_pos isBare, line.written_append, takeWhile_run line.bare rfl,
      dropWhile_run line.bare rfl, String.ofList_toList]
    rfl
  rw [readKey?, depthLimit, readSteps?, step]
  rfl

theorem readPair_line :
    readPair? (line.written ++ rest) = some (([line.key], line.value), rest) := by
  have solid : skipSpaces (' ' :: (line.text ++ '\n' :: rest)) = line.text ++ '\n' :: rest := by
    have first := line.spelt.solid
    rw [skipSpaces, List.dropWhile_cons_of_pos rfl]
    cases text : line.text with
    | nil => rfl
    | cons c more =>
      rw [text] at first
      exact skipSpaces_cons (first c rfl)
  have ended : skipLineEnd? ('\n' :: rest) = some rest := rfl
  rw [readPair?, readKey_line]
  simp only [Option.bind_eq_bind, Option.bind_some, takeChar?, ↓reduceIte, solid,
    line.spelt.read, ended]
  rfl

/-- A line with a key that is still free puts its entry behind those before it. -/
theorem readFrom_line (fuel : Nat) {held : Table} (free : line.key ∉ Entries.keys held) :
    readFrom? (fuel + 1) ⟨held, []⟩ (line.written ++ rest) =
      readFrom? fuel ⟨held ++ [line.entry], []⟩ rest := by
  obtain ⟨first, more, bare, begins⟩ := line.written_cons
  have put : Draft.put? ⟨held, []⟩ [line.key] line.value = some ⟨held ++ [line.entry], []⟩ := by
    have absent : Entries.contains line.key held = false := by
      rw [Entries.contains, Bool.eq_false_iff]
      exact fun present => free (DistinctKeys.find_isSome_iff.mp present)
    simp [Draft.put?, splitKey, descend, define, absent, Line.entry]
  have pair := readPair_line line rest
  rw [begins] at pair ⊢
  rw [readFrom?.eq_def]
  simp only [skipLines_bare bare]
  -- A key begins with none of the characters that headers and comments begin with.
  split
  · rename_i same
    cases same
  · rename_i same
    exact absurd (List.cons.inj same).1 (ne_of_bare bare _ rfl)
  · rename_i same
    exact absurd (List.cons.inj same).1 (ne_of_bare bare _ rfl)
  · rename_i same
    exact absurd (List.cons.inj same).1 (ne_of_bare bare _ rfl)
  · simp only [pair, put, Option.bind_eq_bind, Option.bind_some]

end Reading

/-- The lines are read as the table of their entries. -/
theorem readFrom_lines (lines : List Line) {held : Table} {fuel : Nat}
    (enough : lines.length < fuel)
    (distinct : (Entries.keys held ++ lines.map Line.key).Nodup) :
    readFrom? fuel ⟨held, []⟩ (lines.flatMap Line.written) =
      some (held ++ lines.map Line.entry) := by
  induction lines generalizing held fuel with
  | nil =>
    obtain ⟨fuel, rfl⟩ := Nat.exists_eq_add_one_of_ne_zero (Nat.ne_zero_of_lt enough)
    rw [List.map_nil, List.append_nil]
    rfl
  | cons line rest ih =>
    obtain ⟨fuel, rfl⟩ := Nat.exists_eq_add_one_of_ne_zero (Nat.ne_zero_of_lt enough)
    have moved : Entries.keys held ++ (line :: rest).map Line.key =
        Entries.keys (held ++ [line.entry]) ++ rest.map Line.key := by
      simp [Entries.keys, Line.entry]
    have free : line.key ∉ Entries.keys held := by
      intro member
      exact (List.nodup_append.mp distinct).2.2 _ member _ List.mem_cons_self rfl
    rw [moved] at distinct
    rw [List.flatMap_cons, readFrom_line line _ fuel free,
      ih (Nat.lt_of_succ_lt_succ enough) distinct, List.append_assoc]
    rfl

theorem length_le_written (lines : List Line) :
    lines.length ≤ (lines.flatMap Line.written).length := by
  induction lines with
  | nil => exact Nat.le_refl 0
  | cons line rest ih =>
    rw [List.flatMap_cons, List.length_append, Line.written]
    simp only [List.length_append, List.length_cons]
    omega

/-- Lines with different keys are read as the table of their entries. -/
theorem parse_lines {lines : List Line} (distinct : (lines.map Line.key).Nodup) :
    Toml.parse? (lines.flatMap Line.written) = some (lines.map Line.entry) := by
  have unmarked : (lines.flatMap Line.written).head? ≠ some '\uFEFF' := by
    cases lines with
    | nil => exact nofun
    | cons line rest =>
      obtain ⟨first, more, bare, begins⟩ := line.written_cons
      rw [List.flatMap_cons, begins]
      exact fun same => ne_of_bare bare _ rfl (Option.some.inj same)
  rw [Toml.parse?, if_neg unmarked]
  exact readFrom_lines lines (Nat.lt_succ_of_le (length_le_written lines)) distinct

end ValuePath.TomlLines
