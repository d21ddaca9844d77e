import ValuePath.Proofs.DecimalText
import ValuePath.Proofs.JsonReading
import ValuePath.Proofs.PortableJson
import ValuePath.Proofs.ScanSteps

/-! The tokens that JSON text has as YAML. Brackets and commas are tokens of
their own, words and numbers are plain scalars, strings are scalars in quotes, and
the token of a key stands in front of its string. -/
namespace ValuePath.JsonTokens
open Yaml JsonGrammar FlowScalars ScanSteps PortableJson
open Numeric (isDecimalDigit)

mutual
/-- The tokens of a value. -/
def sourceTokens : Source → List Token
  | .null => [.scalar true "null"]
  | .boolean true => [.scalar true "true"]
  | .boolean false => [.scalar true "false"]
  | .number literal .. => [.scalar true (String.ofList literal.text)]
  | .string pieces => [.scalar false (spelt pieces)]
  | .emptyArray _ => [.flowSequenceStart, .flowSequenceEnd]
  | .array items => .flowSequenceStart :: (itemTokens items ++ [.flowSequenceEnd])
  | .emptyObject _ => [.flowMappingStart, .flowMappingEnd]
  | .object pairs => .flowMappingStart :: (pairTokens pairs ++ [.flowMappingEnd])

def itemTokens : Items → List Token
  | .last _ item _ => sourceTokens item
  | .more _ item _ rest => sourceTokens item ++ .flowEntry :: itemTokens rest

def pairTokens : Pairs → List Token
  | .last _ key _ _ value _ => .key :: .scalar false (spelt key) :: .value :: sourceTokens value
  | .more _ key _ _ value _ rest =>
    .key :: .scalar false (spelt key) :: .value :: (sourceTokens value ++ .flowEntry ::
      pairTokens rest)
end

/-- No character ends a line. -/
def Unbroken (text : List Char) : Prop := ∀ c ∈ text, isBreak c = false

theorem Unbroken.left {front back : List Char} (unbroken : Unbroken (front ++ back)) :
    Unbroken front := fun c member => unbroken c (List.mem_append_left _ member)

theorem Unbroken.right {front back : List Char} (unbroken : Unbroken (front ++ back)) :
    Unbroken back := fun c member => unbroken c (List.mem_append_right _ member)

theorem Unbroken.tail {c : Char} {rest : List Char} (unbroken : Unbroken (c :: rest)) :
    Unbroken rest := fun d member => unbroken d (List.mem_cons_of_mem _ member)

/-- The blanks of one line are blanks of YAML. -/
theorem blanks_in_line {blanks : Blanks} (unbroken : Unbroken blanks.val) :
    ∀ c ∈ blanks.val, isSpaceOrTab c = true := by
  intro c member
  have line := unbroken c member
  have blank := blanks.property c member
  simp only [Json.isSeparator, Bool.or_eq_true, beq_iff_eq] at blank
  rcases blank with ((rfl | rfl) | rfl) | rfl
  · rfl
  · cases line
  · rfl
  · cases line

/-- Where tabs are blanks, all blanks are passed over. -/
theorem passable_of_blank {allowed : Bool} {level : Nat} {blanks : List Char}
    (blank : ∀ c ∈ blanks, isSpaceOrTab c = true) (tabs : 0 < level ∨ allowed = false) :
    Passable allowed level blanks :=
  fun c member => (spaceOrTab_cases (blank c member)).imp_right fun tab => ⟨tab, tabs⟩

/-! ## Words -/

theorem digit_cases {c : Char} (digit : isDecimalDigit c = true) :
    c ∈ ['0', '1', '2', '3', '4', '5', '6', '7', '8', '9'] := by
  obtain ⟨low, high⟩ := (DecimalText.isDecimalDigit_iff c).mp digit
  have low : 48 ≤ c.toNat := low
  have high : c.toNat ≤ 57 := high
  have codes : c.toNat = 48 ∨ c.toNat = 49 ∨ c.toNat = 50 ∨ c.toNat = 51 ∨ c.toNat = 52 ∨
      c.toNat = 53 ∨ c.toNat = 54 ∨ c.toNat = 55 ∨ c.toNat = 56 ∨ c.toNat = 57 := by omega
  have same : c = Char.ofNat c.toNat := (Char.ofNat_toNat c).symm
  rcases codes with code | code | code | code | code | code | code | code | code | code <;>
    rw [same, code] <;> decide

/-- A digit neither ends a plain word nor means anything by itself. -/
theorem plain_digit {c : Char} (digit : isDecimalDigit c = true) :
    Solid c ∧ isIndicator c = false ∧ c ≠ '.' ∧ c ≠ '-' ∧ c ≠ byteOrderMark := by
  have cases := digit_cases digit
  simp only [List.mem_cons, List.not_mem_nil, or_false] at cases
  rcases cases with rfl | rfl | rfl | rfl | rfl | rfl | rfl | rfl | rfl | rfl <;>
    exact ⟨⟨rfl, by decide, by decide, rfl⟩, rfl, by decide, by decide, by decide⟩

theorem solid_literal (literal : Literal) : ∀ c ∈ literal.text, Solid c := by
  have digits (run : Digits) : ∀ c ∈ run.val, Solid c :=
    fun c member => (plain_digit (run.property.2 c member)).1
  have sign : Solid '-' := ⟨rfl, by decide, by decide, rfl⟩
  intro c member
  simp only [Literal.text, List.mem_append] at member
  rcases member with minus | whole | fraction | exponent
  · split at minus
    · rcases List.mem_singleton.mp minus with rfl
      exact sign
    · cases minus
  · exact digits _ c whole
  · cases given : literal.fraction with
    | none =>
      rw [given] at fraction
      cases fraction
    | some run =>
      rw [given] at fraction
      rcases List.mem_cons.mp fraction with rfl | digit
      · exact ⟨rfl, by decide, by decide, rfl⟩
      · exact digits run c digit
  · cases given : literal.exponent with
    | none =>
      rw [given] at exponent
      cases exponent
    | some part =>
      rw [given, exponentText, Exponent.text] at exponent
      rcases List.mem_cons.mp exponent with rfl | later
      · rcases part.letter_eq with letter | letter <;> rw [letter] <;>
          exact ⟨rfl, by decide, by decide, rfl⟩
      · rcases List.mem_append.mp later with signed | digit
        · rcases part.sign_eq c (by simpa using signed) with rfl | rfl
          · exact ⟨rfl, by decide, by decide, rfl⟩
          · exact sign
        · exact digits _ c digit

theorem starts_literal (literal : Literal) : StartsPlain literal.text := by
  have property := literal.whole.property
  rw [Literal.text]
  cases run : literal.whole.val with
  | nil => exact absurd run property.1
  | cons c others =>
    have digit := plain_digit (property.2 c (run ▸ List.mem_cons_self))
    cases literal.negative with
    | true => exact .dash digit.1.1 digit.2.2.2.1
    | false => exact .char digit.1.1 digit.2.1 digit.2.2.1

/-- Values that stand plain, as words. -/
def isWord : Source → Bool
  | .null | .boolean _ | .number .. => true
  | _ => false

theorem solid_letter {c : Char} (letter : c ∈ ['n', 'u', 'l', 't', 'r', 'e', 'f', 'a', 's']) :
    Solid c := by
  simp only [List.mem_cons, List.not_mem_nil, or_false] at letter
  rcases letter with rfl | rfl | rfl | rfl | rfl | rfl | rfl | rfl | rfl <;>
    exact ⟨rfl, by decide, by decide, rfl⟩

theorem word_source {source : Source} (word : isWord source = true) :
    StartsPlain source.text ∧ (∀ c ∈ source.text, Solid c) ∧
      sourceTokens source = [.scalar true (String.ofList source.text)] := by
  cases source with
  | null =>
    refine ⟨.char rfl rfl (by decide), fun c member => solid_letter ?_, rfl⟩
    simp only [Source.text, List.mem_cons] at member ⊢
    tauto
  | boolean value =>
    cases value with
    | true =>
      refine ⟨.char rfl rfl (by decide), fun c member => solid_letter ?_, rfl⟩
      simp only [Source.text, List.mem_cons] at member ⊢
      tauto
    | false =>
      refine ⟨.char rfl rfl (by decide), fun c member => solid_letter ?_, rfl⟩
      simp only [Source.text, List.mem_cons] at member ⊢
      tauto
  | number literal n denotes => exact ⟨starts_literal literal, solid_literal literal, rfl⟩
  | string | emptyArray | array | emptyObject | object => cases word

/-- A value begins visibly. -/
theorem visible_source (source : Source) (rest : List Char) : Visible (source.text ++ rest) := by
  cases source with
  | null | string | emptyArray | array | emptyObject | object =>
    rintro _ ⟨⟩
    decide
  | boolean value =>
    cases value <;>
      · rintro _ ⟨⟩
        decide
  | number literal n denotes =>
    obtain ⟨c, more, written, minus | digit⟩ := JsonReading.literal_head literal
    · rw [Source.text, written, minus]
      rintro _ ⟨⟩
      decide
    · obtain ⟨solid, -, -, -, mark⟩ := plain_digit digit
      rw [Source.text, written]
      rintro _ ⟨⟩
      exact ⟨solid.1, solid.2.2.1, mark⟩

/-! ## Scanning -/

/-- What stands after a scanned value: blanks before what parts or closes values. -/
def Arrives (scan : Scan) (level : Nat) (tail : List Char) (tokens : List Token) : Prop :=
  ∃ next blanks, Reaches scan next ∧ Spot next false level (blanks ++ tail) tokens ∧
    ∀ c ∈ blanks, isSpaceOrTab c = true

theorem scan_word {source : Source} (word : isWord source = true) {scan : Scan} {allowed : Bool}
    {level : Nat} {before after tail : List Char} {tokens : List Token}
    (spot : Spot scan allowed level (before ++ (source.text ++ (after ++ tail))) tokens)
    (passable : Passable allowed level before) (blank : ∀ c ∈ after, isSpaceOrTab c = true)
    (stops : Stops (decide (0 < level)) tail) :
    Arrives scan level tail (tokens ++ sourceTokens source) := by
  obtain ⟨starts, solid, written⟩ := word_source word
  have shorter : tail.length < (source.text ++ (after ++ tail)).length := by
    have positive := List.length_pos_iff.mpr starts.nonempty
    simp only [List.length_append]
    omega
  obtain ⟨next, reaches, arrived⟩ := reaches_here spot passable (visible_source source _)
    (fun _ => fetchHere_plain starts solid blank stops) (by simp) shorter
  exact ⟨next, [], reaches, by rw [written]; exact arrived, by simp⟩

theorem scan_string {pieces : List Piece} (shared : ∀ piece ∈ pieces, Shared piece) {scan : Scan}
    {allowed : Bool} {level : Nat} {before after tail : List Char} {tokens : List Token}
    (spot : Spot scan allowed level (before ++ (quoted pieces ++ (after ++ tail))) tokens)
    (passable : Passable allowed level before) (blank : ∀ c ∈ after, isSpaceOrTab c = true) :
    Arrives scan level tail (tokens ++ [.scalar false (spelt pieces)]) := by
  have here (placed : Scan)
      (spot : Spot placed allowed level (quoted pieces ++ (after ++ tail)) tokens) :
      ∃ next, placed.fetchHere = some next ∧
        Spot next false level (after ++ tail) (tokens ++ [.scalar false (spelt pieces)]) := by
    obtain ⟨next, fetched, arrived, -⟩ := fetchHere_quoted shared spot
    exact ⟨next, fetched, arrived⟩
  obtain ⟨next, reaches, arrived⟩ := reaches_here spot passable
    (visible_source (.string pieces) (after ++ tail)) here (by simp) (by simp [quoted]; omega)
  exact ⟨next, after, reaches, arrived, blank⟩

/-- Wherever the value stands on a line, it is scanned as its tokens. -/
def Scans (source : Source) : Prop :=
  ∀ ⦃scan : Scan⦄ ⦃allowed : Bool⦄ ⦃level : Nat⦄ ⦃before after tail : List Char⦄
    ⦃tokens : List Token⦄,
    Spot scan allowed level (before ++ (source.text ++ (after ++ tail))) tokens →
    Passable allowed level before → (∀ c ∈ after, isSpaceOrTab c = true) →
    Stops (decide (0 < level)) tail → Arrives scan level tail (tokens ++ sourceTokens source)

/-- What parts the values of arrays and objects, or closes these. -/
def Parts (c : Char) : Prop := c = ',' ∨ c = ']' ∨ c = '\x7d'

theorem stops_parts {level : Nat} {c : Char} (parts : Parts c) (rest : List Char) :
    Stops (decide (0 < level + 1)) (c :: rest) := .inr ⟨by simp, c, rest, rfl, parts⟩

section
variable {scan : Scan} {allowed : Bool} {level : Nat} {more rest : List Char}
  {tokens : List Token} {c : Char}

/-- An item is scanned up to what parts it from the next one or closes the array. -/
theorem scan_item {before after : Blanks} {item : Source} (scans : Scans item)
    (unbroken : Unbroken (before.val ++ (item.text ++ (after.val ++ more)))) (parts : Parts c)
    (spot : Spot scan allowed (level + 1) (before.val ++ (item.text ++ (after.val ++ c :: rest)))
      tokens) :
    Arrives scan (level + 1) (c :: rest) (tokens ++ sourceTokens item) :=
  scans spot (passable_of_blank (blanks_in_line unbroken.left) (.inl level.succ_pos))
    (blanks_in_line unbroken.right.right.left) (stops_parts parts rest)

/-- A key is scanned with its colon, and then its value like an item. -/
theorem scan_pair {before beforeColon afterColon after : Blanks} {key : List Piece}
    {value : Source} (scans : Scans value) (portable : PortableKey (key, beforeColon))
    (unbroken : Unbroken (before.val ++ (quoted key ++ (beforeColon.val ++ ':' ::
      (afterColon.val ++ (value.text ++ (after.val ++ more))))))) (parts : Parts c)
    (spot : Spot scan true (level + 1) (before.val ++ (quoted key ++ (beforeColon.val ++ ':' ::
      (afterColon.val ++ (value.text ++ (after.val ++ c :: rest)))))) tokens) :
    Arrives scan (level + 1) (c :: rest)
      (tokens ++ .key :: .scalar false (spelt key) :: .value :: sourceTokens value) := by
  obtain ⟨unpaired, short⟩ := portable
  have colonBlank := blanks_in_line unbroken.right.right.left
  obtain ⟨keyed, toKeyed, atKeyed⟩ := reaches_key
    (shared_of_unbroken unpaired unbroken.right.left) spot
    (passable_of_blank (blanks_in_line unbroken.left) (.inl level.succ_pos))
    (passable_of_blank colonBlank (.inl level.succ_pos)) short
  obtain ⟨read, blanks, toRead, atRead, blank⟩ :=
    scan_item scans unbroken.right.right.right.tail parts atKeyed
  exact ⟨read, blanks, toKeyed.trans toRead, by simpa using atRead, blank⟩

/-- After a value, a comma leads to the next one. -/
theorem Arrives.comma (arrives : Arrives scan (level + 1) (',' :: rest) tokens) :
    ∃ next, Reaches scan next ∧ Spot next true (level + 1) rest (tokens ++ [.flowEntry]) := by
  obtain ⟨read, blanks, toRead, atRead, blank⟩ := arrives
  obtain ⟨parted, toParted, atParted⟩ := reaches_comma atRead (passable_of_blank blank (.inr rfl))
  exact ⟨parted, toRead.trans toParted, atParted⟩

/-- After a value, a bracket may close the array or the object. -/
theorem Arrives.close {token : Token} (arrives : Arrives scan (level + 1) (c :: rest) tokens)
    (closes : Closes c token) :
    ∃ next, Reaches scan next ∧ Spot next false level rest (tokens ++ [token]) := by
  obtain ⟨read, blanks, toRead, atRead, blank⟩ := arrives
  obtain ⟨closed, toClosed, atClosed⟩ := reaches_closing closes atRead
    (passable_of_blank blank (.inr rfl))
  exact ⟨closed, toRead.trans toClosed, atClosed⟩

end

mutual
/-- A value is scanned as its tokens. -/
theorem scan_source : (source : Source) → Portable source → Unbroken source.text → Scans source
  | .null, _, _, _, _, _, _, _, _, _, spot, passable, blank, stops
  | .boolean _, _, _, _, _, _, _, _, _, _, spot, passable, blank, stops
  | .number .., _, _, _, _, _, _, _, _, _, spot, passable, blank, stops =>
    scan_word rfl spot passable blank stops
  | .string pieces, portable, unbroken, _, _, _, _, _, _, _, spot, passable, blank, _ =>
    scan_string (shared_of_unbroken (portable.unpaired pieces .whole) unbroken) spot passable blank
  | .emptyArray inside, _, unbroken, _, _, level, _, after, _, _, spot, passable, blank, _ => by
    have within := blanks_in_line (unbroken.tail.left : Unbroken inside.val)
    rw [Source.text, List.cons_append, List.append_assoc, List.singleton_append] at spot
    obtain ⟨opened, toOpened, atOpened⟩ := reaches_opening .sequence spot passable
    obtain ⟨closed, toClosed, atClosed⟩ := reaches_closing .sequence atOpened
      (passable_of_blank within (.inl level.succ_pos))
    exact ⟨closed, after, toOpened.trans toClosed, by simpa [sourceTokens] using atClosed, blank⟩
  | .array items, portable, unbroken, _, _, _, _, after, _, _, spot, passable, blank, _ => by
    rw [Source.text, List.cons_append, List.append_assoc, List.singleton_append] at spot
    obtain ⟨opened, toOpened, atOpened⟩ := reaches_opening .sequence spot passable
    obtain ⟨closed, toClosed, atClosed⟩ :=
      scan_items items portable.items unbroken.tail.left atOpened
    exact ⟨closed, after, toOpened.trans toClosed, by simpa [sourceTokens] using atClosed, blank⟩
  | .emptyObject inside, _, unbroken, _, _, level, _, after, _, _, spot, passable, blank, _ => by
    have within := blanks_in_line (unbroken.tail.left : Unbroken inside.val)
    rw [Source.text, List.cons_append, List.append_assoc, List.singleton_append] at spot
    obtain ⟨opened, toOpened, atOpened⟩ := reaches_opening .mapping spot passable
    obtain ⟨closed, toClosed, atClosed⟩ := reaches_closing .mapping atOpened
      (passable_of_blank within (.inl level.succ_pos))
    exact ⟨closed, after, toOpened.trans toClosed, by simpa [sourceTokens] using atClosed, blank⟩
  | .object pairs, portable, unbroken, _, _, _, _, after, _, _, spot, passable, blank, _ => by
    rw [Source.text, List.cons_append, List.append_assoc, List.singleton_append] at spot
    obtain ⟨opened, toOpened, atOpened⟩ := reaches_opening .mapping spot passable
    obtain ⟨closed, toClosed, atClosed⟩ := scan_pairs pairs portable.values
      (portable.keys pairs .whole) unbroken.tail.left atOpened
    exact ⟨closed, after, toOpened.trans toClosed, by simpa [sourceTokens] using atClosed, blank⟩

/-- The items of an array are scanned up to its end. -/
theorem scan_items : (items : Items) → (∀ item ∈ itemSources items, Portable item) →
    Unbroken items.text → {scan : Scan} → {level : Nat} → {rest : List Char} →
    {tokens : List Token} → Spot scan true (level + 1) (items.text ++ ']' :: rest) tokens →
    ∃ next, Reaches scan next ∧
      Spot next false level rest (tokens ++ (itemTokens items ++ [.flowSequenceEnd]))
  | .last before item after, portable, unbroken, scan, level, rest, tokens, spot => by
    rw [Items.text, List.append_assoc, List.append_assoc] at spot
    rw [Items.text, ← List.append_nil after.val] at unbroken
    have scans := scan_source item (portable item (List.mem_singleton_self _)) unbroken.right.left
    obtain ⟨closed, toClosed, atClosed⟩ :=
      (scan_item scans unbroken (.inr (.inl rfl)) spot).close .sequence
    exact ⟨closed, toClosed, by simpa [itemTokens] using atClosed⟩
  | .more before item after others, portable, unbroken, scan, level, rest, tokens, spot => by
    simp only [Items.text, List.append_assoc, List.cons_append] at spot
    have scans := scan_source item (portable item List.mem_cons_self) unbroken.right.left
    obtain ⟨parted, toParted, atParted⟩ := (scan_item scans unbroken (.inl rfl) spot).comma
    obtain ⟨closed, toClosed, atClosed⟩ := scan_items others
      (fun other member => portable other (List.mem_cons_of_mem _ member))
      unbroken.right.right.right.tail atParted
    exact ⟨closed, toParted.trans toClosed, by simpa [itemTokens] using atClosed⟩

/-- The pairs of an object are scanned up to its end. -/
theorem scan_pairs : (pairs : Pairs) → (∀ value ∈ pairSources pairs, Portable value) →
    (∀ key ∈ pairKeys pairs, PortableKey key) →
    Unbroken pairs.text → {scan : Scan} → {level : Nat} → {rest : List Char} →
    {tokens : List Token} → Spot scan true (level + 1) (pairs.text ++ '\x7d' :: rest) tokens →
    ∃ next, Reaches scan next ∧
      Spot next false level rest (tokens ++ (pairTokens pairs ++ [.flowMappingEnd]))
  | .last before key beforeColon afterColon value after, portable, keys, unbroken, scan, level,
      rest, tokens, spot => by
    simp only [Pairs.text, List.append_assoc, List.cons_append] at spot
    rw [Pairs.text, ← List.append_nil after.val] at unbroken
    have scans := scan_source value (portable value (List.mem_singleton_self _))
      unbroken.right.right.right.tail.right.left
    obtain ⟨closed, toClosed, atClosed⟩ := (scan_pair scans
      (keys _ (List.mem_singleton_self _)) unbroken (.inr (.inr rfl)) spot).close .mapping
    exact ⟨closed, toClosed, by simpa [pairTokens] using atClosed⟩
  | .more before key beforeColon afterColon value after others, portable, keys, unbroken, scan,
      level, rest, tokens, spot => by
    simp only [Pairs.text, List.append_assoc, List.cons_append] at spot
    have scans := scan_source value (portable value List.mem_cons_self)
      unbroken.right.right.right.tail.right.left
    obtain ⟨parted, toParted, atParted⟩ :=
      (scan_pair scans (keys _ List.mem_cons_self) unbroken (.inl rfl) spot).comma
    obtain ⟨closed, toClosed, atClosed⟩ := scan_pairs others
      (fun other member => portable other (List.mem_cons_of_mem _ member))
      (fun other member => keys other (List.mem_cons_of_mem _ member))
      unbroken.right.right.right.tail.right.right.right.tail atParted
    exact ⟨closed, toParted.trans toClosed, by simpa [pairTokens] using atClosed⟩
end

/-- The tokens of a portable document are those of its value, and the end. -/
theorem document_tokens {document : JsonGrammar.Document} (portable : PortableDocument document) :
    Token.ofText document.text = sourceTokens document.source ++ [.streamEnd] := by
  have unbroken : Unbroken document.text := portable.unbroken
  have spaces : Passable true 0 document.before.val := by
    intro c member
    have blank := blanks_in_line unbroken.left c member
    rcases spaceOrTab_cases blank with space | rfl
    · exact .inl space
    · exact absurd member portable.untabbed
  have start := spot_start portable.allowed
  have spot : Spot (Scan.start document.text) true 0 (document.before.val ++
      (document.source.text ++ (document.after.val ++ []))) [] := by
    rwa [List.append_nil]
  obtain ⟨final, blanks, reaches, arrived, blank⟩ := scan_source document.source portable.portable
    unbroken.right.left spot spaces (blanks_in_line unbroken.right.right) (.inl rfl)
  rw [List.append_nil] at arrived
  exact tokens_of_reaches reaches arrived (passable_of_blank blank (.inr rfl))

end ValuePath.JsonTokens
