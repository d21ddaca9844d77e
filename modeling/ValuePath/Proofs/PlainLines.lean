import ValuePath.Proofs.JsonContents

/-! Plain scalars on one line, as YAML writes them: words with blanks between them, which nothing
opens, closes or sets apart. A text that is such a line is one document, the scalar of this text. -/
namespace ValuePath.PlainLines
open Yaml FlowScalars ScanSteps

/-! ## Grammar -/

/-- A word of a plain scalar. Colons stand only within it. -/
structure IsWord (word : List Char) : Prop where
  nonempty : word ≠ []
  solid : ∀ c ∈ word, isAllowed c = true ∧ isGap c = false
  uncoloned : word.getLast? ≠ some ':'

/-- Words parted by blanks. Behind a blank, a number sign would begin a comment. -/
inductive Words : List Char → Prop where
  | last (isWord : IsWord word) : Words word
  | more (isWord : IsWord word) (parted : blanks ≠ [])
      (blank : ∀ c ∈ blanks, isSpaceOrTab c = true) (uncommented : later.head? ≠ some '#')
      (words : Words later) : Words (word ++ (blanks ++ later))

/-- What a plain scalar begins with: a character that means nothing by itself, or a dash, a
question mark or a colon with something right behind it. -/
inductive Begins : List Char → Prop where
  | char (indicator : isIndicator c = false) (unmarked : c ≠ byteOrderMark) : Begins (c :: rest)
  | sign (sign : c = '-' ∨ c = '?' ∨ c = ':') (together : atGap rest = false) : Begins (c :: rest)

/-- A marker of the start or of the end of a document stands here. -/
def Marks (text : List Char) : Prop :=
  ∃ c rest, (c = '-' ∨ c = '.') ∧ text = c :: c :: c :: rest ∧ atGap rest = true

/-- A plain scalar on one line. -/
structure PlainLine (text : List Char) : Prop where
  words : Words text
  begins : Begins text
  unmarked : ¬ Marks text

section Parts
variable {word text : List Char}

theorem Words.visible (words : Words text) : ∀ c ∈ text.head?, isGap c = false := by
  have first {word rest : List Char} (isWord : IsWord word) :
      ∀ c ∈ (word ++ rest).head?, isGap c = false := by
    intro c head
    cases word with
    | nil => exact absurd rfl isWord.nonempty
    | cons first others =>
      cases head
      exact (isWord.solid c List.mem_cons_self).2
  cases words with
  | last isWord => exact List.append_nil text ▸ first isWord
  | more isWord => exact first isWord

theorem Words.allowed (words : Words text) : ∀ c ∈ text, isAllowed c = true := by
  induction words with
  | last isWord => exact fun c member => (isWord.solid c member).1
  | more isWord parted blank uncommented words ih =>
    simp only [List.forall_mem_append]
    refine ⟨fun c member => (isWord.solid c member).1, fun c member => ?_, ih⟩
    rcases spaceOrTab_cases (blank c member) with rfl | rfl <;> decide

theorem Begins.uncommented (begins : Begins text) : text.head? ≠ some '#' := by
  rintro head
  cases begins with
  | char indicator =>
    cases head
    cases indicator
  | sign sign =>
    cases head
    rcases sign with sign | sign | sign <;> cases sign

/-- A plain scalar does not begin with what is passed over. -/
theorem PlainLine.visible (plain : PlainLine text) : Visible text := by
  intro c head
  refine ⟨plain.words.visible c head, fun sign => ?_, fun mark => ?_⟩
  · exact plain.begins.uncommented (sign ▸ head)
  · cases plain.begins with
    | char indicator unmarked =>
      cases head
      exact unmarked mark
    | sign sign =>
      cases head
      rcases sign with rfl | rfl | rfl <;> cases mark

theorem PlainLine.nonempty (plain : PlainLine text) : text ≠ [] := by
  cases plain.begins <;> exact List.cons_ne_nil _ _

/-- A line without a marker shows none. -/
theorem seesMarker_eq (unmarked : ¬ Marks text) {cursor : Cursor} (rest : cursor.rest = text)
    {c : Char} (marker : c = '-' ∨ c = '.') : cursor.seesMarker c = false := by
  rw [← Bool.not_eq_true, Cursor.seesMarker, Bool.and_eq_true, Bool.and_eq_true, beq_iff_eq,
    beq_iff_eq, rest]
  rintro ⟨⟨-, three⟩, gap⟩
  refine unmarked ⟨c, text.drop 3, marker, ?_, gap⟩
  rw [← List.take_append_drop 3 text, three]
  rfl

end Parts

/-! ## Reading -/

/-- A word is read up to the gap or the end behind it. -/
theorem plainWord_word {word rest : List Char} (solid : ∀ c ∈ word, isGap c = false)
    (uncoloned : word.getLast? ≠ some ':') (ends : atGap rest = true) :
    plainWord? false (word ++ rest) = some word := by
  induction word with
  | nil =>
    cases rest with
    | nil => rfl
    | cons c others => exact if_pos ends
  | cons c others ih =>
    have together : (c == ':' && atGap (others ++ rest)) = false := by
      cases others with
      | nil => simpa using fun colon => absurd (congrArg some colon) uncoloned
      | cons d more => simp [atGap, solid d (by simp)]
    have later : plainWord? false (others ++ rest) = some others := by
      refine ih (fun d member => solid d (List.mem_cons_of_mem c member)) fun colon => ?_
      cases others with
      | nil => cases colon
      | cons d more => exact uncoloned (by rwa [List.getLast?_cons_cons])
    rw [List.cons_append, plainWord?]
    simp [solid c List.mem_cons_self, together, later]

theorem gap_text {gap : Gap} (unbroken : gap.broken = false) : gap.text = gap.blanks := by
  rw [Gap.text, unbroken]
  rfl

section Reading
variable {gap : Gap} {cursor : Cursor} {word text rest : List Char}

/-- A word is read with the gap before it, and then what is behind the gap after it. -/
theorem plainWords_word (isWord : IsWord word) (unbroken : gap.broken = false)
    (follows : cursor.rest = word ++ rest) (ends : atGap rest = true)
    (unmarked : cursor.seesAnyMarker = false) (uncommented : word.head? ≠ some '#') (fuel : Nat) :
    plainWords? false 0 (fuel + 1) gap cursor =
      if rest.isEmpty then some (gap.blanks ++ word, ⟨cursor.mark.forward word, rest⟩, false)
      else (Gap.read? 0 Gap.none (cursor.mark.forward word) rest).bind fun (nextGap, next) =>
        (plainWords? false 0 fuel nextGap next).map fun (later, after) =>
          (gap.blanks ++ word ++ later, after) := by
  have nonempty : word.isEmpty = false := by simpa using isWord.nonempty
  have plain : cursor.sees '#' = false := by
    rw [Cursor.sees, follows, List.head?_append_of_ne_nil _ isWord.nonempty, beq_eq_false_iff_ne]
    exact uncommented
  have read : plainWord? false cursor.rest = some word := by
    rw [follows]
    exact plainWord_word (fun c member => (isWord.solid c member).2) isWord.uncoloned ends
  rw [plainWords?, unmarked, plain, read]
  simp only [Bool.or_self, Bool.false_eq_true, if_false, nonempty, skip_append follows,
    gap_text unbroken]
  cases rest with
  | nil => rfl
  | cons c others =>
    have isGap : isGap c = true := ends
    simp only [isGap, Bool.not_true, Bool.false_eq_true, if_false, List.isEmpty_cons]
    cases Gap.read? 0 Gap.none (cursor.mark.forward word) (c :: others) with
    | none => rfl
    | some found => simp

/-- All words are read, with the blanks between them and those before. -/
theorem plainWords_words (words : Words text) (unbroken : gap.broken = false)
    (follows : cursor.rest = text) (unmarked : cursor.seesAnyMarker = false)
    (uncommented : text.head? ≠ some '#') {fuel : Nat} (enough : text.length ≤ fuel) :
    plainWords? false 0 (fuel + 1) gap cursor =
      some (gap.blanks ++ text, ⟨cursor.mark.forward text, []⟩, false) := by
  induction words generalizing gap cursor fuel with
  | last isWord =>
    exact plainWords_word isWord unbroken (by rw [follows, List.append_nil]) rfl unmarked
      uncommented fuel
  | @more word blanks later isWord parted blank unsigned words ih =>
    have ends : atGap (blanks ++ later) = true := by
      cases blanks with
      | nil => exact absurd rfl parted
      | cons c others => simp [atGap, isGap, blank c List.mem_cons_self]
    have filled : (blanks ++ later).isEmpty = false := by simp [parted]
    have first : word.head? ≠ some '#' := by
      rwa [List.head?_append_of_ne_nil _ isWord.nonempty] at uncommented
    have column : 0 < ((cursor.mark.forward word).forward blanks).column := by
      have positive := List.length_pos_iff.mpr parted
      rw [forward_column]
      omega
    obtain ⟨fuel, rfl⟩ : ∃ spare, fuel = spare + 1 := by
      have positive := List.length_pos_iff.mpr isWord.nonempty
      rw [List.length_append] at enough
      exact ⟨fuel - 1, by omega⟩
    have spare : later.length ≤ fuel := by
      have positive := List.length_pos_iff.mpr parted
      simp only [List.length_append] at enough
      omega
    have between : Gap.read? 0 Gap.none (cursor.mark.forward word) (blanks ++ later) =
        some (⟨blanks, false, none, []⟩, ⟨(cursor.mark.forward word).forward blanks, later⟩) :=
      gapRead_blanks blank words.visible 0 rfl _
    have behind : plainWords? false 0 (fuel + 1) ⟨blanks, false, none, []⟩
        ⟨(cursor.mark.forward word).forward blanks, later⟩ = some (blanks ++ later, _, false) :=
      ih rfl rfl (no_marker_inside column) unsigned spare
    rw [plainWords_word isWord unbroken follows ends unmarked first, filled, between]
    simp only [Bool.false_eq_true, if_false, Option.bind_some, behind]
    simp [forward_append]

end Reading

/-! ## Documents -/

theorem fetchHere_begins {text : List Char} (plain : PlainLine text) {scan : Scan} {allowed : Bool}
    {tokens : List Token} (spot : Spot scan allowed 0 text tokens) :
    scan.fetchHere = scan.fetchPlain := by
  have dashes := seesMarker_eq plain.unmarked spot.before (.inl rfl)
  have dots := seesMarker_eq plain.unmarked spot.before (.inr rfl)
  obtain ⟨words, begins, -⟩ := plain
  cases begins with
  | @char c rest indicator =>
    exact fetchHere_char (words.visible c rfl) indicator spot.before dashes dots
  | @sign c rest sign together =>
    have outside : scan.inFlow = false := spot.inFlow
    have unblank : rest.head?.any isSpaceOrTab = false := by
      cases rest with
      | nil => rfl
      | cons d others =>
        have solid : isGap d = false := together
        rw [isGap, Bool.or_eq_false_iff] at solid
        exact solid.1
    rcases sign with rfl | rfl | rfl <;>
      simp [Scan.fetchHere, spot.before, dashes, dots, together, outside, unblank,
        Scan.startsPlain]

/-- A plain scalar is read to the end of the text. -/
theorem fetchHere_line {text : List Char} (plain : PlainLine text) {scan : Scan} {allowed : Bool}
    {tokens : List Token} (spot : Spot scan allowed 0 text tokens) :
    ∃ next, scan.fetchHere = some next ∧
      Spot next false 0 [] (tokens ++ [.scalar true (String.ofList text)]) := by
  obtain ⟨noted, notes, kept, -, -, -⟩ := noteKey_exists spot
  have unmarked : noted.cursor.seesAnyMarker = false := by
    rw [Cursor.seesAnyMarker, seesMarker_eq plain.unmarked kept.before (.inl rfl),
      seesMarker_eq plain.unmarked kept.before (.inr rfl), Bool.or_self]
  have column : (noted.indent + 1).toNat = 0 := by
    rw [kept.indent]
    rfl
  have read : readPlain? (noted.size + 1) false 0 noted.cursor =
      some (text, ⟨noted.cursor.mark.forward text, []⟩, false) :=
    plainWords_words plain.words rfl kept.before unmarked plain.begins.uncommented kept.long
  have whole : Spot noted allowed 0 (text ++ []) tokens := by rwa [List.append_nil]
  refine ⟨_, ?_, (whole.moved.allow false).push (.scalar true (String.ofList text))⟩
  rw [fetchHere_begins plain spot, Scan.fetchPlain, notes]
  simp only [Option.bind_eq_bind, Option.bind_some, column, kept.inFlow, Nat.lt_irrefl,
    decide_false, read]
  rfl

theorem line_tokens {text : List Char} (plain : PlainLine text) :
    Token.ofText text = [.scalar true (String.ofList text), .streamEnd] := by
  have spot : Spot (Scan.start text) true 0 ([] ++ text) [] := spot_start plain.words.allowed
  obtain ⟨next, reaches, arrived⟩ := reaches_here spot nofun plain.visible
    (fun _ => fetchHere_line plain) nofun (List.length_pos_iff.mpr plain.nonempty)
  exact tokens_of_reaches reaches arrived nofun

/-- A single scalar is a document. -/
theorem readAll_scalar {text : List Char} {plain : Bool} {scalar : String}
    (tokens : Token.ofText text = [.scalar plain scalar, .streamEnd]) :
    Document.readAll text = [some ⟨.scalar none plain scalar, Anchors.empty⟩] := by
  rw [Document.readAll, tokens]
  simp [Document.readFrom, Document.read?, Document.isBare, Document.skipEnds,
    JsonContents.read_scalar]

/-- A text that is one plain scalar is the document of this scalar. -/
theorem readAll_line {text : List Char} (plain : PlainLine text) :
    Document.readAll text = [some ⟨.scalar none true (String.ofList text), Anchors.empty⟩] :=
  readAll_scalar (line_tokens plain)

end ValuePath.PlainLines
