import ValuePath.Proofs.JsonGrammar
import ValuePath.Yaml.FlowText

/-! Scalars of JSON documents where they are read as YAML: a string in double
quotes on one line, and a word that stands plain. Both are read whole, up to the
quote or the blanks that end them. -/
namespace ValuePath.FlowScalars
open Yaml JsonGrammar

/-! ## Places in a line -/

theorem forward_append (mark : Mark) (front back : List Char) :
    mark.forward (front ++ back) = (mark.forward front).forward back := List.foldl_append

theorem forward_cons (mark : Mark) (c : Char) (rest : List Char) :
    mark.forward (c :: rest) = (mark.next c).forward rest := rfl

theorem forward_column (mark : Mark) (chars : List Char) :
    (mark.forward chars).column = mark.column + chars.length := by
  induction chars generalizing mark with
  | nil => rfl
  | cons c rest ih =>
    rw [forward_cons, ih, List.length_cons, Mark.next]
    dsimp only
    omega

theorem forward_line (mark : Mark) (chars : List Char) :
    (mark.forward chars).line = mark.line := by
  induction chars generalizing mark with
  | nil => rfl
  | cons c rest ih =>
    rw [forward_cons, ih]
    rfl

/-- The count of bytes of some characters. -/
def byteCount : List Char → Nat
  | [] => 0
  | c :: rest => c.utf8Size + byteCount rest

theorem byteCount_append (front back : List Char) :
    byteCount (front ++ back) = byteCount front + byteCount back := by
  induction front with
  | nil => exact (Nat.zero_add _).symm
  | cons c rest ih => rw [List.cons_append, byteCount, byteCount, ih, Nat.add_assoc]

theorem forward_index (mark : Mark) (chars : List Char) :
    (mark.forward chars).index = mark.index + byteCount chars := by
  induction chars generalizing mark with
  | nil => rfl
  | cons c rest ih =>
    rw [forward_cons, ih, byteCount, Mark.next]
    dsimp only
    omega

theorem skip_append {cursor : Cursor} {front back : List Char}
    (rest : cursor.rest = front ++ back) :
    cursor.skip front.length = ⟨cursor.mark.forward front, back⟩ := by
  rw [Cursor.skip, rest, List.take_left, List.drop_left]

/-- No marker of a document stands within a line. -/
theorem no_marker_inside {cursor : Cursor} (inside : 0 < cursor.mark.column) :
    cursor.seesAnyMarker = false := by
  have column : (cursor.mark.column == 0) = false := by
    rw [beq_eq_false_iff_ne]
    omega
  simp [Cursor.seesAnyMarker, Cursor.seesMarker, column]

/-! ## Gaps -/

theorem spaceOrTab_cases {c : Char} (blank : isSpaceOrTab c = true) : c = ' ' ∨ c = '\t' := by
  simpa [isSpaceOrTab] using blank

/-- Blanks are added to a gap up to where a word begins. -/
theorem gapRead_blanks {blanks tail : List Char} (all : ∀ c ∈ blanks, isSpaceOrTab c = true)
    (visible : ∀ c ∈ tail.head?, isGap c = false) (inner : Nat) {gap : Gap}
    (unbroken : gap.broken = false) (mark : Mark) :
    Gap.read? inner gap mark (blanks ++ tail) =
      some ({ gap with blanks := gap.blanks ++ blanks }, ⟨mark.forward blanks, tail⟩) := by
  induction blanks generalizing gap mark with
  | nil =>
    rw [List.nil_append, List.append_nil]
    cases tail with
    | nil => rfl
    | cons c rest =>
      have word := visible c rfl
      rw [Gap.read?.eq_def]
      split
      · rename_i same
        cases same
      · rename_i same
        cases same
        cases word
      · rename_i same
        cases same
        rw [isGap, Bool.or_eq_false_iff] at word
        simp [word.1, word.2]
        rfl
  | cons c rest ih =>
    have others := fun d member => all d (List.mem_cons_of_mem c member)
    have added : (gap.addBlank c) = { gap with blanks := gap.blanks ++ [c] } := by
      rw [Gap.addBlank, if_neg (by simp [unbroken])]
    have step : Gap.read? inner gap mark (c :: (rest ++ tail)) =
        Gap.read? inner (gap.addBlank c) (mark.next c) (rest ++ tail) := by
      rcases spaceOrTab_cases (all c List.mem_cons_self) with rfl | rfl <;>
        simp [Gap.read?, isBreak, isSpaceOrTab, unbroken]
    rw [List.cons_append, step, added, ih others (by simpa using unbroken)]
    simp [forward_cons]

/-! ## Strings in double quotes -/

/-- A spelling that both formats know: any but the two halves of a pair, and any
character that does not end a line. -/
def Shared : Piece → Prop
  | .plain c _ => isBreak c = false
  | .letter .. | .unit .. => True
  | .pair .. => False

/-- A blank that stands for itself. -/
def isSpace : Piece → Bool
  | .plain c _ => c == ' '
  | _ => false

/-- A character that stands for itself and is no blank parts no words. -/
theorem solid_plain {c : Char} {bare : 0x20 ≤ c.toNat ∧ c ≠ '"' ∧ c ≠ '\\'}
    (shared : Shared (.plain c bare)) (solid : isSpace (.plain c bare) = false) :
    isGap c = false := by
  have line : isBreak c = false := shared
  have blank : c ≠ ' ' := by simpa [isSpace] using solid
  have tab : c ≠ '\t' := by
    rintro rfl
    exact absurd bare.1 (by decide)
  simp [isGap, isSpaceOrTab, blank, tab, line]

theorem hexUnit_eq {a b c d : Char} {code : Nat} (spelt : Json.hexUnit? a b c d = some code) :
    Numeric.readDigits? 16 [a, b, c, d] = some code := by
  simp only [Json.hexUnit?, Option.bind_eq_bind, Option.bind_eq_some_iff, Option.pure_def,
    Option.some.injEq] at spelt
  obtain ⟨a', first, b', second, c', third, d', fourth, rfl⟩ := spelt
  simp [Numeric.readDigits?, Numeric.foldDigits, first, second, third, fourth]

theorem digitValue_lt {base value : Nat} {c : Char}
    (digit : Numeric.digitValue? base c = some value) : value < base := by
  rw [Numeric.digitValue?, Option.filter_eq_some_iff] at digit
  simpa using digit.2

theorem hexUnit_lt {a b c d : Char} {code : Nat} (spelt : Json.hexUnit? a b c d = some code) :
    code < 0x10000 := by
  simp only [Json.hexUnit?, Option.bind_eq_bind, Option.bind_eq_some_iff, Option.pure_def,
    Option.some.injEq] at spelt
  obtain ⟨a', first, b', second, c', third, d', fourth, rfl⟩ := spelt
  have := digitValue_lt first
  have := digitValue_lt second
  have := digitValue_lt third
  have := digitValue_lt fourth
  omega

/-- A character by its number is the same character in both formats. -/
theorem scalarChar_unit {a b c d : Char} {code : Nat} (spelt : Json.hexUnit? a b c d = some code)
    (whole : Json.isHighHalf code = false ∧ Json.isLowHalf code = false) :
    scalarChar? code = some (Char.ofNat code) := by
  have small := hexUnit_lt spelt
  have outside : code < 0xD800 ∨ (0xDFFF < code ∧ code ≤ 0x10FFFF) := by
    simp only [Json.isHighHalf, Json.isLowHalf, Bool.and_eq_false_iff, decide_eq_false_iff_not]
      at whole
    omega
  rw [scalarChar?, if_pos outside]

/-- The letters of escapes stand for the same characters in both formats. -/
theorem doubleWord_letter {letter c : Char} (escaped : Json.escapedChar? letter = some c)
    {cursor : Cursor} {more : List Char} (rest : cursor.rest = '\\' :: letter :: more)
    (fuel : Nat) : doubleWord? (fuel + 1) cursor =
      (doubleWord? fuel (cursor.skip 2)).map fun (word, after) => (c :: word, after) := by
  rw [Json.escapedChar?.eq_def] at escaped
  rw [doubleWord?.eq_def]
  split at escaped <;> cases escaped <;> simp [rest, escapeWidth?, escapeChar?]

/-- A word goes on with every spelling but a blank. -/
theorem doubleWord_piece {piece : Piece} (shared : Shared piece) (solid : isSpace piece = false)
    {cursor : Cursor} {more : List Char} (rest : cursor.rest = piece.text ++ more) (fuel : Nat) :
    doubleWord? (fuel + 1) cursor =
      (doubleWord? fuel ⟨cursor.mark.forward piece.text, more⟩).map fun (word, after) =>
        (piece.char :: word, after) := by
  have skipped := skip_append rest
  cases piece with
  | plain c bare =>
    obtain ⟨control, quote, backslash⟩ := bare
    have apart := solid_plain shared solid
    rw [doubleWord?.eq_def]
    simp only [rest, Piece.text, List.singleton_append]
    split
    case h_9 same =>
      cases same
      simp only [Piece.text, List.length_singleton] at skipped
      simp [apart, quote, skipped, Piece.char]
    all_goals simp_all
  | letter l c escaped =>
    rw [doubleWord_letter escaped rest]
    exact congrArg _ (congrArg _ skipped)
  | unit a b c d code spelt whole =>
    have digits := hexUnit_eq spelt
    have char := scalarChar_unit spelt whole
    simp only [Piece.text, List.length_cons, List.length_nil] at skipped
    rw [doubleWord?.eq_def]
    simp only [rest, Piece.text, List.cons_append, List.nil_append]
    simp [escapeWidth?, digits, char, skipped, Piece.char]
  | pair => exact shared.elim

/-- A word in double quotes is read up to a blank or the closing quote. -/
theorem doubleWord_pieces {word : List Piece} (shared : ∀ piece ∈ word, Shared piece)
    (solid : ∀ piece ∈ word, isSpace piece = false) {next : Char} (ends : next = ' ' ∨ next = '"')
    {cursor : Cursor} {more : List Char}
    (rest : cursor.rest = word.flatMap Piece.text ++ next :: more) {fuel : Nat}
    (enough : word.length < fuel) :
    doubleWord? fuel cursor = some (word.map Piece.char,
      ⟨cursor.mark.forward (word.flatMap Piece.text), next :: more⟩, .gap) := by
  obtain ⟨fuel, rfl⟩ : ∃ spare, fuel = spare + 1 := ⟨fuel - 1, by omega⟩
  induction word generalizing cursor fuel with
  | nil =>
    obtain ⟨mark, text⟩ := cursor
    cases rest
    rcases ends with rfl | rfl <;> rfl
  | cons piece others ih =>
    rw [List.length_cons] at enough
    rw [List.flatMap_cons, List.append_assoc] at rest
    obtain ⟨fuel, rfl⟩ : ∃ spare, fuel = spare + 1 := ⟨fuel - 1, by omega⟩
    rw [doubleWord_piece (shared _ List.mem_cons_self) (solid _ List.mem_cons_self) rest,
      ih (fun _ member => shared _ (List.mem_cons_of_mem _ member))
        (fun _ member => solid _ (List.mem_cons_of_mem _ member)) rfl fuel (by omega)]
    simp [forward_append]

/-- Blanks within a string stand for themselves. -/
theorem spaces_text {spaces : List Piece} (all : ∀ piece ∈ spaces, isSpace piece = true) :
    spaces.flatMap Piece.text = spaces.map Piece.char ∧
      ∀ c ∈ spaces.map Piece.char, c = ' ' := by
  induction spaces with
  | nil => simp
  | cons piece others ih =>
    obtain ⟨text, blank⟩ := ih fun _ member => all _ (List.mem_cons_of_mem _ member)
    have first := all piece List.mem_cons_self
    cases piece with
    | plain c bare =>
      have space : c = ' ' := by simpa [isSpace] using first
      rw [List.flatMap_cons, text, List.map_cons, List.forall_mem_cons]
      exact ⟨rfl, space, blank⟩
    | letter | unit | pair => cases first

/-- What follows the blanks of a string is no blank. -/
theorem head_after_spaces {pieces : List Piece} (shared : ∀ piece ∈ pieces, Shared piece)
    (starts : ∀ piece ∈ pieces.head?, isSpace piece = false) (rest : List Char) :
    ∀ c ∈ (pieces.flatMap Piece.text ++ '"' :: rest).head?, isGap c = false := by
  cases pieces with
  | nil => simp; decide
  | cons piece others =>
    have solid := starts piece rfl
    have one := shared piece List.mem_cons_self
    cases piece with
    | plain c bare =>
      intro d first
      cases first
      exact solid_plain one solid
    | letter | unit | pair =>
      intro d first
      cases first
      decide

/-- The longest front of a list on which a test gives an answer. -/
private theorem front_exists (test : Piece → Bool) (answer : Bool) (pieces : List Piece) :
    ∃ front back, pieces = front ++ back ∧ (∀ piece ∈ front, test piece = answer) ∧
      ∀ piece ∈ back.head?, test piece = !answer := by
  induction pieces with
  | nil => exact ⟨[], [], rfl, by simp, by simp⟩
  | cons piece others ih =>
    by_cases first : test piece = answer
    · obtain ⟨front, back, rfl, all, ends⟩ := ih
      exact ⟨piece :: front, back, rfl, List.forall_mem_cons.mpr ⟨first, all⟩, ends⟩
    · refine ⟨[], piece :: others, rfl, by simp, ?_⟩
      rintro _ ⟨⟩
      cases answer <;> simpa using first

/-- The blanks at the front of a string, and what follows them. -/
private theorem spaces_exist {first : Piece} (space : isSpace first = true) (others : List Piece) :
    ∃ blanks spaces final, first :: others = spaces ++ final ∧
      spaces.flatMap Piece.text = ' ' :: blanks ∧ spaces.map Piece.char = ' ' :: blanks ∧
      (∀ c ∈ ' ' :: blanks, isSpaceOrTab c = true) ∧
      (∀ piece ∈ final.head?, isSpace piece = false) ∧ final.length ≤ others.length := by
  obtain ⟨spaces, final, rfl, blank, ends⟩ := front_exists isSpace true others
  obtain ⟨same, all_spaces⟩ := spaces_text (List.forall_mem_cons.mpr ⟨space, blank⟩)
  have leading : first.char = ' ' := all_spaces _ List.mem_cons_self
  have spelt : (first :: spaces).map Piece.char = ' ' :: spaces.map Piece.char := by
    rw [List.map_cons, leading]
  refine ⟨spaces.map Piece.char, first :: spaces, final, rfl, same.trans spelt, spelt, ?_, ends,
    by simp⟩
  rw [← spelt]
  intro c member
  rw [all_spaces c member]
  rfl

/-- A word and the blanks behind it are read, and then the rest of the string. -/
private theorem quotedWords_gap {word : List Piece} {cursor after : Cursor}
    {blanks more chars : List Char} {fuel : Nat}
    (marker : cursor.seesAnyMarker = false) (nonempty : cursor.rest.isEmpty = false)
    (first : doubleWord? (fuel + 1) cursor = some (word.map Piece.char,
      ⟨cursor.mark.forward (word.flatMap Piece.text), ' ' :: (blanks ++ more)⟩, .gap))
    (blank : ∀ c ∈ ' ' :: blanks, isSpaceOrTab c = true)
    (visible : ∀ c ∈ more.head?, isGap c = false)
    (next : quotedWords? false fuel
      ⟨(cursor.mark.forward (word.flatMap Piece.text)).forward (' ' :: blanks), more⟩ =
        some (chars, after)) :
    quotedWords? false (fuel + 1) cursor =
      some (word.map Piece.char ++ (' ' :: blanks ++ chars), after) := by
  have unclosed : Cursor.sees ⟨cursor.mark.forward (word.flatMap Piece.text),
      ' ' :: (blanks ++ more)⟩ '"' = false := rfl
  have unbroken : (WordEnd.gap == WordEnd.escapedBreak) = false := rfl
  have gap : Gap.read? 0 Gap.none (cursor.mark.forward (word.flatMap Piece.text))
      (' ' :: (blanks ++ more)) = some (⟨' ' :: blanks, false, none, []⟩,
        ⟨(cursor.mark.forward (word.flatMap Piece.text)).forward (' ' :: blanks), more⟩) :=
    gapRead_blanks blank visible 0 rfl _
  rw [quotedWords?]
  simp only [marker, nonempty, first, unclosed, unbroken, Bool.or_self, Bool.and_false,
    Bool.false_eq_true, if_false, gap, next]
  simp [Gap.text]

/-- A string is read up to its closing quote, its words and blanks as they stand. -/
theorem quotedWords_pieces (pieces : List Piece) (shared : ∀ piece ∈ pieces, Shared piece)
    {cursor : Cursor} (inside : 0 < cursor.mark.column) {more : List Char}
    (rest : cursor.rest = pieces.flatMap Piece.text ++ '"' :: more) {fuel : Nat}
    (enough : pieces.length < fuel) :
    quotedWords? false fuel cursor = some (pieces.map Piece.char,
      ⟨cursor.mark.forward (pieces.flatMap Piece.text ++ ['"']), more⟩) := by
  induction fuel generalizing pieces cursor with
  | zero => omega
  | succ fuel ih =>
    have marker := no_marker_inside inside
    have nonempty : cursor.rest.isEmpty = false := by rw [rest]; simp
    obtain ⟨word, later, rfl, solid, starts⟩ := front_exists isSpace false pieces
    have wordShared : ∀ piece ∈ word, Shared piece := fun piece member =>
      shared piece (List.mem_append_left _ member)
    rw [List.flatMap_append, List.append_assoc] at rest
    rw [List.length_append] at enough
    cases later with
    | nil =>
      rw [quotedWords?]
      simp only [marker, nonempty, Bool.or_self, Bool.false_eq_true, if_false]
      rw [doubleWord_pieces wordShared solid (.inr rfl) rest (by omega)]
      simp [Cursor.sees, Cursor.skip, forward_append]
    | cons first others =>
      -- blanks follow the word; what is behind them is read in the next round
      obtain ⟨blanks, spaces, final, split, text, spelt, blank, ends, shorter⟩ :=
        spaces_exist (starts first rfl) others
      have finalShared : ∀ piece ∈ final, Shared piece := fun piece member =>
        shared piece (List.mem_append_right _ (split ▸ List.mem_append_right _ member))
      rw [split, List.flatMap_append, text, List.append_assoc, List.cons_append] at rest
      rw [List.length_cons] at enough
      have column : 0 < ((cursor.mark.forward (word.flatMap Piece.text)).forward
          (' ' :: blanks)).column := by
        rw [forward_column, forward_column]
        omega
      have next : quotedWords? false fuel
          ⟨(cursor.mark.forward (word.flatMap Piece.text)).forward (' ' :: blanks),
            final.flatMap Piece.text ++ '"' :: more⟩ = some (final.map Piece.char, _) :=
        ih final finalShared column rfl (by omega)
      rw [quotedWords_gap marker nonempty
        (doubleWord_pieces wordShared solid (.inl rfl) rest (by omega)) blank
        (head_after_spaces finalShared ends more) next]
      simp [split, text, spelt, ← forward_append]

/-- A string is read from its opening quote to its closing one. -/
theorem readQuoted_pieces (pieces : List Piece) (shared : ∀ piece ∈ pieces, Shared piece)
    {cursor : Cursor} {more : List Char} (rest : cursor.rest = quoted pieces ++ more) {fuel : Nat}
    (enough : pieces.length < fuel) :
    readQuoted? fuel false cursor =
      some (pieces.map Piece.char, ⟨cursor.mark.forward (quoted pieces), more⟩) := by
  have opened : cursor.skip 1 =
      ⟨cursor.mark.forward ['"'], pieces.flatMap Piece.text ++ '"' :: more⟩ := by
    rw [Cursor.skip, rest, quoted, List.cons_append, List.append_assoc]
    rfl
  have column : 0 < (cursor.mark.forward ['"']).column := by
    rw [forward_column]
    exact Nat.succ_pos _
  rw [readQuoted?, opened, quotedWords_pieces pieces shared column rfl enough, ← forward_append]
  rfl

/-! ## Words that stand plain -/

/-- A character that neither ends a plain word nor begins anything else. -/
def Solid (c : Char) : Prop :=
  isGap c = false ∧ c ≠ ':' ∧ c ≠ '#' ∧ [',', '[', ']', '{', '}'].contains c = false

/-- What stands behind a value and the blanks after it: nothing, or inside of
brackets what parts or closes values. -/
def Stops (flow : Bool) (tail : List Char) : Prop :=
  tail = [] ∨ flow = true ∧ ∃ c rest, tail = c :: rest ∧ (c = ',' ∨ c = ']' ∨ c = '\x7d')

theorem Stops.visible {flow : Bool} {tail : List Char} (stops : Stops flow tail) :
    ∀ c ∈ tail.head?, isGap c = false := by
  rcases stops with rfl | ⟨-, c, rest, rfl, rfl | rfl | rfl⟩
  · simp
  all_goals
    rintro _ ⟨⟩
    rfl

/-- No word begins where a value has ended. -/
theorem plainWord_stops {flow : Bool} {tail : List Char} (stops : Stops flow tail) :
    plainWord? flow tail = some [] := by
  rcases stops with rfl | ⟨rfl, c, rest, rfl, rfl | rfl | rfl⟩
  · rfl
  all_goals
    rw [plainWord?]
    simp [isGap, isSpaceOrTab, isBreak]

/-- A plain word is read up to a gap or to where the value ends. -/
theorem plainWord_solid {word : List Char} (solid : ∀ c ∈ word, Solid c) {flow : Bool}
    {gaps tail : List Char} (all : ∀ c ∈ gaps, isGap c = true) (stops : Stops flow tail) :
    plainWord? flow (word ++ (gaps ++ tail)) = some word := by
  induction word with
  | nil =>
    rw [List.nil_append]
    cases gaps with
    | nil => exact plainWord_stops stops
    | cons c others => rw [List.cons_append, plainWord?, if_pos (all c List.mem_cons_self)]
  | cons c others ih =>
    obtain ⟨gap, colon, -, indicator⟩ := solid c List.mem_cons_self
    rw [List.cons_append, plainWord?]
    simp only [gap, beq_eq_false_iff_ne.mpr colon, indicator, Bool.and_false, Bool.false_and,
      Bool.false_eq_true, if_false, ih fun d member => solid d (List.mem_cons_of_mem c member)]
    rfl

/-- Nothing more is read where a value has ended within a line. -/
theorem plainWords_stops {flow : Bool} {cursor : Cursor} (stops : Stops flow cursor.rest)
    (inside : 0 < cursor.mark.column) {gap : Gap} (unbroken : gap.broken = false) (fuel : Nat) :
    plainWords? flow 0 (fuel + 1) gap cursor = some ([], cursor, false) := by
  have uncommented : cursor.sees '#' = false := by
    rw [Cursor.sees]
    rcases stops with none | ⟨-, c, rest, starts, rfl | rfl | rfl⟩
    · rw [none]
      rfl
    all_goals
      rw [starts]
      rfl
  have still : cursor.skip 0 = cursor := rfl
  rw [plainWords?, no_marker_inside inside, uncommented, plainWord_stops stops]
  simp only [Bool.or_self, Bool.false_eq_true, if_false, List.length_nil, still, List.isEmpty_nil,
    if_true, unbroken]
  cases ends : cursor.rest with
  | nil => rfl
  | cons c rest =>
    have gapless := stops.visible c (by rw [ends]; rfl)
    simp [gapless]

/-- A word that stands plain is read with the blanks behind it. -/
theorem readPlain_word {word : List Char} (nonempty : word ≠ []) (solid : ∀ c ∈ word, Solid c)
    {flow : Bool} {blanks tail : List Char} (all : ∀ c ∈ blanks, isSpaceOrTab c = true)
    (stops : Stops flow tail) {cursor : Cursor} (rest : cursor.rest = word ++ (blanks ++ tail))
    (unmarked : cursor.seesAnyMarker = false) {fuel : Nat} (enough : 2 ≤ fuel) :
    readPlain? fuel flow 0 cursor =
      some (word, ⟨cursor.mark.forward (word ++ blanks), tail⟩, false) := by
  obtain ⟨fuel, rfl⟩ : ∃ spare, fuel = spare + 2 := ⟨fuel - 2, by omega⟩
  have uncommented : cursor.sees '#' = false := by
    cases word with
    | nil => exact absurd rfl nonempty
    | cons c others =>
      have other := (solid c List.mem_cons_self).2.2.1
      simp [Cursor.sees, rest, other]
  have read : plainWord? flow cursor.rest = some word := by
    rw [rest, plainWord_solid solid (fun c member => by simp [isGap, all c member]) stops]
  have filled : word.isEmpty = false := by simpa using nonempty
  rw [readPlain?, plainWords?, unmarked, uncommented, read]
  simp only [Bool.or_self, Bool.false_eq_true, if_false, filled, skip_append rest]
  cases blanks with
  | nil =>
    rw [List.nil_append, List.append_nil]
    cases tail with
    | nil => rfl
    | cons c others =>
      have gapless := stops.visible c rfl
      simp [gapless, Gap.text, Gap.none]
  | cons blank others =>
    have gap : isGap blank = true := by simp [isGap, all blank List.mem_cons_self]
    have column : 0 < ((cursor.mark.forward word).forward (blank :: others)).column := by
      rw [forward_column, forward_column, List.length_cons]
      omega
    have gapRead : Gap.read? 0 Gap.none (cursor.mark.forward word) (blank :: (others ++ tail)) =
        some (⟨blank :: others, false, none, []⟩,
          ⟨(cursor.mark.forward word).forward (blank :: others), tail⟩) :=
      gapRead_blanks all stops.visible 0 rfl _
    have ended : plainWords? flow 0 (fuel + 1) ⟨blank :: others, false, none, []⟩
        ⟨(cursor.mark.forward word).forward (blank :: others), tail⟩ =
        some ([], ⟨(cursor.mark.forward word).forward (blank :: others), tail⟩, false) :=
      plainWords_stops stops column rfl fuel
    have wide : decide (((cursor.mark.forward word).forward (blank :: others)).column < 0) =
        false := by simp
    simp only [List.cons_append, gap, gapRead, wide, Bool.and_false, Bool.not_true,
      Bool.false_eq_true, if_false, ended]
    simp [Gap.text, Gap.none, forward_append]

end ValuePath.FlowScalars
