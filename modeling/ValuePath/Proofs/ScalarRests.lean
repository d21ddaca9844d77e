import ValuePath.Proofs.FlowScalars

/-! What is left of a text behind the scalars of JSON documents, where these are read as YAML at
all. Strings and the gaps behind words may go on over several lines here, and how many rounds
a reader has does not matter. -/
namespace ValuePath.ScalarRests
open Yaml JsonGrammar FlowScalars

/-- A gap is read up to what is none. -/
theorem gapRead_rest {inner : Nat} {gap found : Gap} {mark : Mark} {text : List Char}
    {after : Cursor} (read : Gap.read? inner gap mark text = some (found, after)) :
    after.rest = text.dropWhile isGap := by
  fun_induction Gap.read? inner gap mark text with
  | case1 =>
    cases read
    rfl
  | case2 gap mark rest ih => exact ih read
  | case3 gap mark c rest _ ends ih =>
    have blank : isGap c = true := by simp [isGap, ends]
    rw [List.dropWhile_cons_of_pos blank]
    exact ih read
  | case4 => cases read
  | case5 gap mark c rest _ _ space _ ih =>
    have blank : isGap c = true := by simp [isGap, space]
    rw [List.dropWhile_cons_of_pos blank]
    exact ih read
  | case6 gap mark c rest _ solid unblank =>
    have word : ¬isGap c = true := by simp [isGap, solid, unblank]
    cases read
    rw [List.dropWhile_cons_of_neg word]

/-- Only the gaps before what is none are dropped. -/
theorem dropWhile_gaps {gaps tail : List Char} (all : ∀ c ∈ gaps, isGap c = true)
    (visible : ∀ c ∈ tail.head?, isGap c = false) : (gaps ++ tail).dropWhile isGap = tail := by
  rw [List.dropWhile_append_of_pos all]
  cases tail with
  | nil => rfl
  | cons c more => rw [List.dropWhile_cons_of_neg (by simp [visible c rfl])]

/-- The text stands in a string, and more of it behind the closing quote. -/
def Within (text more : List Char) : Prop :=
  ∃ pieces : List Piece, text = pieces.flatMap Piece.text ++ '"' :: more

/-- Gaps in a string are spelt by themselves. -/
theorem Within.dropGaps {text more : List Char} (within : Within text more) :
    Within (text.dropWhile isGap) more := by
  obtain ⟨pieces, rfl⟩ := within
  induction pieces with
  | nil => exact ⟨[], rfl⟩
  | cons piece others ih =>
    cases piece with
    | plain c bare =>
      rw [List.flatMap_cons, Piece.text, List.singleton_append, List.cons_append,
        List.dropWhile_cons]
      split
      · exact ih
      · exact ⟨.plain c bare :: others, rfl⟩
    | letter l c escaped => exact ⟨.letter l c escaped :: others, rfl⟩
    | unit a b c d code spelt whole => exact ⟨.unit a b c d code spelt whole :: others, rfl⟩
    | pair a b c d e f g h high low spelt halves =>
      exact ⟨.pair a b c d e f g h high low spelt halves :: others, rfl⟩

/-- A quote in a string is the one that closes it. -/
theorem Within.closes {text more : List Char} (within : Within text more)
    (quote : text.head? = some '"') : text = '"' :: more := by
  obtain ⟨pieces, rfl⟩ := within
  cases pieces with
  | nil => rfl
  | cons piece others =>
    cases piece with
    | plain c bare => exact absurd (by simpa [Piece.text] using quote) bare.2.1
    | letter | unit | pair => cases quote

/-- No half of a pair is a character. -/
theorem doubleWord_pair {a b c d e f g h : Char} {high low : Nat}
    {spelt : Json.hexUnit? a b c d = some high ∧ Json.hexUnit? e f g h = some low}
    {halves : Json.isHighHalf high = true ∧ Json.isLowHalf low = true} {cursor : Cursor}
    {more : List Char}
    (rest : cursor.rest = (Piece.pair a b c d e f g h high low spelt halves).text ++ more)
    (fuel : Nat) : doubleWord? fuel cursor = none := by
  cases fuel with
  | zero => rfl
  | succ fuel =>
    have digits := hexUnit_eq spelt.1
    have char : scalarChar? high = none := by
      have half := halves.1
      simp only [Json.isHighHalf, Bool.and_eq_true, decide_eq_true_eq] at half
      rw [scalarChar?, if_neg (by omega)]
    rw [doubleWord?.eq_def]
    simp [rest, Piece.text, escapeWidth?, digits, char]

/-- At a gap or a closing quote, no letter of a word is read. -/
theorem doubleWord_stays {cursor : Cursor} {c : Char} {more : List Char}
    (stays : c = '"' ∨ isGap c = true) (rest : cursor.rest = c :: more) (fuel : Nat) :
    doubleWord? (fuel + 1) cursor = some ([], cursor, .gap) := by
  have unescaped : c ≠ '\\' := by
    rintro rfl
    rcases stays with same | gap
    · cases same
    · cases gap
  rw [doubleWord?.eq_def]
  simp only [rest]
  split
  case h_9 same =>
    cases same
    rcases stays with quote | gap
    · simp [quote]
    · simp [gap]
  all_goals simp_all

/-- A word of a string ends in the string, at a gap or at the closing quote. -/
theorem doubleWord_rest {fuel : Nat} {cursor after : Cursor} {more word : List Char}
    {ending : WordEnd} (within : Within cursor.rest more)
    (read : doubleWord? fuel cursor = some (word, after, ending)) :
    ending = .gap ∧ Within after.rest more := by
  obtain ⟨pieces, rest⟩ := within
  induction pieces generalizing fuel cursor word with
  | nil =>
    cases fuel with
    | zero => cases read
    | succ fuel =>
      cases (doubleWord_stays (.inl rfl) rest fuel).symm.trans read
      exact ⟨rfl, [], rest⟩
  | cons piece others ih =>
    have onward (shared : Shared piece) (solid : isSpace piece = false) :
        ending = .gap ∧ Within after.rest more := by
      rw [List.flatMap_cons, List.append_assoc] at rest
      cases fuel with
      | zero => cases read
      | succ fuel =>
        rw [doubleWord_piece shared solid rest] at read
        obtain ⟨⟨letters, behind, ends⟩, later, same⟩ := Option.map_eq_some_iff.mp read
        cases same
        exact ih later rfl
    cases piece with
    | plain c bare =>
      cases gap : isGap c with
      | true =>
        cases fuel with
        | zero => cases read
        | succ fuel =>
          cases (doubleWord_stays (.inr gap) rest fuel).symm.trans read
          exact ⟨rfl, .plain c bare :: others, rest⟩
      | false =>
        rw [isGap, Bool.or_eq_false_iff] at gap
        refine onward gap.2 ?_
        rw [isSpace, beq_eq_false_iff_ne]
        rintro rfl
        cases gap.1
    | letter => exact onward trivial rfl
    | unit => exact onward trivial rfl
    | pair =>
      rw [List.flatMap_cons, List.append_assoc] at rest
      rw [doubleWord_pair rest] at read
      cases read

/-- A string is read up to its closing quote. -/
theorem quotedWords_rest {fuel : Nat} {cursor after : Cursor} {more text : List Char}
    (within : Within cursor.rest more)
    (read : quotedWords? false fuel cursor = some (text, after)) : after.rest = more := by
  induction fuel generalizing cursor text with
  | zero => cases read
  | succ fuel ih =>
    rw [quotedWords?] at read
    split at read
    · cases read
    · simp only [Bool.false_eq_true, if_false] at read
      split at read
      · cases read
      · rename_i word behind ending wordRead
        obtain ⟨rfl, inside⟩ := doubleWord_rest within wordRead
        split at read
        next closes =>
          cases read
          have quote : behind.rest.head? = some '"' := by simpa [Cursor.sees] using closes
          rw [Cursor.skip, inside.closes quote]
          rfl
        next =>
          split at read
          · cases read
          · rename_i gap next gapRead
            obtain ⟨⟨letters, last⟩, later, same⟩ := Option.map_eq_some_iff.mp read
            cases same
            refine ih ?_ later
            have left := gapRead_rest gapRead
            rw [left]
            exact inside.dropGaps

/-- Behind a string that can be read, its rest is left. -/
theorem readQuoted_rest {fuel : Nat} {cursor after : Cursor} {pieces : List Piece}
    {more text : List Char} (rest : cursor.rest = quoted pieces ++ more)
    (read : readQuoted? fuel false cursor = some (text, after)) : after.rest = more := by
  refine quotedWords_rest ⟨pieces, ?_⟩ read
  rw [Cursor.skip, rest, quoted]
  simp

/-! ## Words that stand plain -/

/-- Nothing is read where a value has ended. -/
theorem plainWords_rest {inner fuel : Nat} {gap : Gap} {cursor after : Cursor} {text : List Char}
    {ended : Bool} (stops : Stops true cursor.rest)
    (read : plainWords? true inner fuel gap cursor = some (text, after, ended)) :
    after.rest = cursor.rest := by
  cases fuel with
  | zero => cases read
  | succ fuel =>
    rw [plainWords?, plainWord_stops stops] at read
    split at read
    · cases read
      rfl
    · have still : cursor.skip ([] : List Char).length = cursor := rfl
      dsimp only at read
      rw [still] at read
      split at read
      · cases read
        rfl
      · rename_i c more rest
        have gapless := stops.visible c (by rw [rest]; rfl)
        rw [if_pos (by simp [gapless])] at read
        cases read
        rfl

/-- Behind a word between brackets that can be read, what parts or closes the values is left. -/
theorem readPlain_rest {inner fuel : Nat} {cursor after : Cursor} {word gaps tail text : List Char}
    {ended : Bool} (solid : ∀ c ∈ word, Solid c) (all : ∀ c ∈ gaps, isGap c = true)
    (stops : Stops true tail) (unmarked : cursor.seesAnyMarker = false)
    (rest : cursor.rest = word ++ (gaps ++ tail)) (nonempty : word ≠ [])
    (read : readPlain? fuel true inner cursor = some (text, after, ended)) : after.rest = tail := by
  have uncommented : cursor.sees '#' = false := by
    cases word with
    | nil => exact absurd rfl nonempty
    | cons c others =>
      have other := (solid c List.mem_cons_self).2.2.1
      simp [Cursor.sees, rest, other]
  rw [readPlain?] at read
  cases fuel with
  | zero => cases read
  | succ fuel =>
    rw [plainWords?, unmarked, uncommented, rest, plainWord_solid solid all stops] at read
    simp only [Bool.or_self, Bool.false_eq_true, if_false, skip_append rest] at read
    cases gaps with
    | nil =>
      cases tail with
      | nil =>
        cases read
        rfl
      | cons c more =>
        have gapless := stops.visible c rfl
        simp only [List.nil_append, gapless, Bool.not_false, if_true] at read
        cases read
        rfl
    | cons c others =>
      have gap : isGap c = true := all c List.mem_cons_self
      simp only [List.cons_append, gap, Bool.not_true, Bool.false_eq_true, if_false,
        Bool.false_and] at read
      split at read
      · cases read
      · rename_i found next gapRead
        obtain ⟨⟨letters, last, ends⟩, later, same⟩ := Option.map_eq_some_iff.mp read
        cases same
        have passed : next.rest = tail := by
          rw [gapRead_rest gapRead, ← List.cons_append]
          exact dropWhile_gaps all stops.visible
        rw [← passed] at stops ⊢
        exact plainWords_rest stops later

end ValuePath.ScalarRests
