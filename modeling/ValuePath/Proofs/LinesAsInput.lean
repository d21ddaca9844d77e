import ValuePath.Document.Load
import ValuePath.Proofs.FlowScans
import ValuePath.Proofs.JsonLines
import ValuePath.Proofs.TokenFronts

/-! JSON lines where documents are expected. Input is read as YAML first; a stream of two JSON
documents or more is none, if it opens with an object, an array or a string, so that such
a stream is read as lines after all. -/
namespace ValuePath.LinesAsInput
open Yaml JsonGrammar ScanSteps FlowScans FlowValues TokenFronts
open JsonLines (Documents holds_iff lines_single lines_more)
open JsonTokens (isWord visible_source word_source)
open ScalarRests (dropWhile_gaps)

/-! ## What follows a value -/

/-- What a document of JSON begins with, or a blank that YAML takes for a letter. -/
inductive Opening : List Char → Prop where
  | bracket (rest : List Char) : Opening ('[' :: rest)
  | brace (rest : List Char) : Opening ('\x7b' :: rest)
  | quote (rest : List Char) : Opening ('"' :: rest)
  | plain {text : List Char} (starts : StartsPlain text) : Opening text

theorem StartsPlain.append {word : List Char} (starts : StartsPlain word) (more : List Char) :
    StartsPlain (word ++ more) := by
  cases starts with
  | char gap indicator dot => exact .char gap indicator dot
  | dash gap other => exact .dash gap other

theorem opening_source (source : Source) (rest : List Char) : Opening (source.text ++ rest) := by
  cases word : isWord source with
  | true => exact .plain (StartsPlain.append (word_source word).1 rest)
  | false =>
    cases source with
    | null | boolean | number => cases word
    | string => exact .quote _
    | emptyArray | array => exact .bracket _
    | emptyObject | object => exact .brace _

/-- A blank that is no gap of YAML means nothing to it. -/
theorem opening_blank {c : Char} (blank : Text.isBlank c = true) (solid : isGap c = false)
    (rest : List Char) : Visible (c :: rest) ∧ Opening (c :: rest) := by
  have apart (d : Char) (visible : Text.isBlank d = false) : c ≠ d := by
    rintro rfl
    rw [blank] at visible
    cases visible
  have indicator : isIndicator c = false := by
    rw [Bool.eq_false_iff]
    intro means
    simp only [isIndicator, List.contains_eq_mem, decide_eq_true_eq, List.mem_cons,
      List.not_mem_nil, or_false] at means
    rcases means with rfl | rfl | rfl | rfl | rfl | rfl | rfl | rfl | rfl | rfl | rfl | rfl | rfl |
      rfl | rfl | rfl | rfl | rfl | rfl <;> exact absurd blank (by decide)
  refine ⟨?_, .plain (.char solid indicator (apart '.' (by decide)))⟩
  rintro _ ⟨⟩
  exact ⟨solid, apart '#' (by decide), apart byteOrderMark (by decide)⟩

section
variable {scan next : Scan} {tail : List Char} {value : List Token}

/-- Where a key may begin outside of brackets, its place is the only one. -/
theorem keys_of_noted {mark : Mark} {rest : List Char} {allowed : Bool}
    (spot : Spot scan allowed 0 rest value)
    (current : scan.currentKey = some ⟨false, value.length, mark⟩) :
    ∀ key ∈ scan.keys, ∀ possible ∈ key, value.length ≤ possible.position := by
  obtain ⟨key, keys⟩ := List.length_eq_one_iff.mp spot.nested
  rw [Scan.currentKey, keys] at current
  cases current
  rw [keys]
  rintro _ member possible held
  cases List.mem_singleton.mp member
  cases held
  exact Nat.le_refl _

/-- The first token behind a value stands between no documents, and no key may begin before it. -/
theorem beyond_of_opening (spot : Spot scan true 0 tail value) (opening : Opening tail)
    (reads : scan.fetchHere = some next) : Beyond value next := by
  obtain ⟨noted, notes, kept, -, -, keyed⟩ := noteKey_exists spot
  have keys := keys_of_noted kept (keyed rfl)
  have behind {token : Token} (inner : isBoundary token = false) :
      ∃ first more, (noted.tokens.push token).toList = value ++ first :: more ∧
        isBoundary first = false := by
    rw [TokenLog.toList_push, kept.behind]
    exact ⟨token, [], rfl, inner⟩
  have opened {token : Token} (inner : isBoundary token = false)
      (fetches : scan.fetchHere = scan.fetchFlowStart token) : Beyond value next := by
    rw [fetches, Scan.fetchFlowStart, notes] at reads
    cases reads
    exact ⟨behind inner, List.forall_mem_cons.mpr ⟨by simp, keys⟩⟩
  cases opening with
  | bracket rest =>
    exact opened (rfl : isBoundary .flowSequenceStart = false)
      (by simp [Scan.fetchHere, spot.before, Cursor.seesMarker])
  | brace rest =>
    exact opened (rfl : isBoundary .flowMappingStart = false)
      (by simp [Scan.fetchHere, spot.before, Cursor.seesMarker])
  | quote rest =>
    have fetches : scan.fetchHere = scan.fetchQuoted false := by
      simp [Scan.fetchHere, spot.before, Cursor.seesMarker]
    rw [fetches, Scan.fetchQuoted, notes, Option.bind_eq_bind, Option.bind_some] at reads
    obtain ⟨⟨text, after⟩, -, same⟩ := Option.bind_eq_some_iff.mp reads
    cases same
    exact ⟨behind rfl, keys⟩
  | plain starts =>
    rw [← List.append_nil tail] at spot
    rw [fetchHere_starts starts spot, Scan.fetchPlain, notes, Option.bind_eq_bind,
      Option.bind_some] at reads
    obtain ⟨⟨text, after, ended⟩, -, same⟩ := Option.bind_eq_some_iff.mp reads
    cases same
    exact ⟨behind rfl, keys⟩

/-- Where a content is opened in a later line than a value, no run gives documents. -/
theorem rejected_behind {gaps : List Char} (flow : FlowValue value)
    (stand : Stand scan false 0 (gaps ++ tail) value) (all : ∀ c ∈ gaps, isGap c = true)
    (ends : gaps.any isBreak = true) (visible : Visible tail) (opening : Opening tail)
    (fuel : Nat) : Rejected (scan.run fuel) := by
  have unended : .streamEnd ∉ scan.tokens.toList := stand.behind ▸ stand.unended
  cases fuel with
  | zero => exact rejected_unended (unended_broken unended)
  | succ fuel =>
    rw [Scan.run]
    cases fetched : scan.fetch with
    | none => exact rejected_unended (unended_broken unended)
    | some next =>
      obtain ⟨placed, arrived, now, spot, reads, rfl, -, keyed⟩ :=
        fetch_here stand.toSpot all visible fetched
      obtain rfl := keyed (.inr ⟨rfl, ends⟩)
      have beyond : Beyond value (refreshed arrived) :=
        (beyond_of_opening spot opening reads).refreshed
      have front : ∃ token more, (if (refreshed arrived).tokens.latest.head? = some .streamEnd
          then (refreshed arrived).tokens.toList else (refreshed arrived).run fuel) =
          value ++ token :: more ∧ isBoundary token = false := by
        split
        · exact beyond.behind
        · exact run_behind fuel beyond
      obtain ⟨token, more, split, inner⟩ := front
      dsimp only
      rw [split]
      exact rejected_behind_value inner flow

end

/-! ## Lines -/

/-- The lines that are not blank. -/
def documentLines (text : List Char) : List (List Char) :=
  (Text.lines text).filter (!Text.isBlankText ·)

/-- The end of a line may hold a carriage return. -/
theorem dropReturn_split (line : List Char) :
    ∃ back, line = Text.dropReturn line ++ back ∧ ∀ c ∈ back, c = '\r' := by
  rw [Text.dropReturn]
  split
  next ends =>
    refine ⟨['\r'], ?_, by simp⟩
    exact (List.dropLast_append_getLast? _ ends).symm
  next => exact ⟨[], (List.append_nil _).symm, by simp⟩

/-- The first line that is not blank stands behind blanks and before the other ones. -/
theorem first_line (text : List Char) {first : List Char} {others : List (List Char)}
    (given : documentLines text = first :: others) :
    ∃ front back, text = front ++ (first ++ back) ∧ (∀ c ∈ front, Text.isBlank c = true) ∧
      (others ≠ [] → ∃ back' rest, back = back' ++ '\n' :: rest ∧ (∀ c ∈ back', c = '\r') ∧
        documentLines rest = others) := by
  by_cases single : '\n' ∈ text
  · obtain ⟨line, rest, rfl, unbroken⟩ := List.eq_append_cons_of_mem single
    obtain ⟨back, split, returns⟩ := dropReturn_split line
    rw [documentLines, lines_more unbroken] at given
    cases blank : Text.isBlankText (Text.dropReturn line) with
    | true =>
      rw [List.filter_cons_of_neg (by simp [blank])] at given
      have shorter : rest.length < (line ++ '\n' :: rest).length := by
        rw [List.length_append, List.length_cons]
        omega
      obtain ⟨front, back', rfl, blanks, later⟩ := first_line rest given
      refine ⟨line ++ '\n' :: front, back', by simp, ?_, later⟩
      intro c member
      rcases List.mem_append.mp member with inside | inside
      · rw [split] at inside
        rcases List.mem_append.mp inside with kept | dropped
        · exact List.all_eq_true.mp blank c kept
        · rw [returns c dropped]
          decide
      · rcases List.mem_cons.mp inside with rfl | behind
        · decide
        · exact blanks c behind
    | false =>
      rw [List.filter_cons_of_pos (by simp [blank])] at given
      cases given
      refine ⟨[], back ++ '\n' :: rest, ?_, by simp, fun _ => ⟨back, rest, rfl, returns, rfl⟩⟩
      rw [List.nil_append, ← List.append_assoc, ← split]
  · rw [documentLines, lines_single single] at given
    have only : (first :: others).Sublist [text] := by
      rw [← given]
      refine List.filter_sublist.trans ?_
      split <;> simp
    have few : others = [] := by
      have length := only.length_le
      rw [List.length_cons, List.length_singleton] at length
      exact List.eq_nil_of_length_eq_zero (by omega)
    cases few
    obtain rfl : first = text := List.mem_singleton.mp (only.subset List.mem_cons_self)
    exact ⟨[], [], by simp, by simp, fun several => absurd rfl several⟩
termination_by text.length

/-! ## Streams of documents -/

/-- What is a gap of YAML at the front of some blanks, and the blanks that are none. -/
theorem blanks_split {blanks : List Char} (all : ∀ c ∈ blanks, Text.isBlank c = true) :
    ∃ gaps left, blanks = gaps ++ left ∧ (∀ c ∈ gaps, isGap c = true) ∧
      (left = [] ∨ ∃ c more, left = c :: more ∧ Text.isBlank c = true ∧ isGap c = false) := by
  refine ⟨blanks.takeWhile isGap, blanks.dropWhile isGap,
    List.takeWhile_append_dropWhile.symm, fun c member => List.mem_takeWhile_imp member, ?_⟩
  cases rest : blanks.dropWhile isGap with
  | nil => exact .inl rfl
  | cons c more =>
    have member : c ∈ blanks := (List.dropWhile_suffix isGap).subset (rest ▸ List.mem_cons_self)
    refine .inr ⟨c, more, rfl, all c member, ?_⟩
    have first := List.head?_dropWhile_not isGap blanks
    rw [rest] at first
    simpa using first

theorem blank_of_blanks (blanks : Blanks) : ∀ c ∈ blanks.val, Text.isBlank c = true := by
  intro c member
  have blank := blanks.property c member
  simp only [Json.isSeparator, Bool.or_eq_true, beq_iff_eq] at blank
  rcases blank with ((rfl | rfl) | rfl) | rfl <;> decide

/-- A text is scanned from its start, as if it could be read to the end. -/
theorem stand_start (text : List Char) :
    Stand (ScanLimits.unlimited (Scan.start text)) true 0 text [] where
  before := rfl
  readable := rfl
  long := Nat.le_refl _
  indent := rfl
  indents := rfl
  keyAllowed := rfl
  nested := rfl
  optional := by simp [ScanLimits.unlimited, Scan.start]
  behind := rfl
  unended := List.not_mem_nil

/-- A value that is no word, and in a later line what opens another content, are no YAML. -/
theorem rejected_text {source : Source} (phrase : isWord source = false)
    {before between tail : List Char} (gaps : ∀ c ∈ before, isGap c = true)
    (all : ∀ c ∈ between, isGap c = true) (ends : between.any isBreak = true)
    (visible : Visible tail) (opening : Opening tail) :
    Rejected (Token.ofText (before ++ (source.text ++ (between ++ tail)))) := by
  obtain ⟨rounds, same⟩ := ScanLimits.run_unlimited _ (Scan.start
    (before ++ (source.text ++ (between ++ tail))))
  rw [Token.ofText, same]
  rcases leads_source source phrase (stand_start _) gaps rounds with
    unended | ⟨next, fewer, ⟨value, flow, stand⟩, again⟩
  · exact rejected_unended unended
  · rw [again]
    exact rejected_behind flow stand all ends visible opening fewer

/-- What opens the text is a value that is no word, behind gaps. -/
theorem opens_phrase {blanks rest : List Char} {source : Source}
    (all : ∀ c ∈ blanks, Text.isBlank c = true)
    (opens : ∃ c ∈ ((blanks ++ (source.text ++ rest)).dropWhile isGap).head?,
      c = '[' ∨ c = '\x7b' ∨ c = '"') :
    (∀ c ∈ blanks, isGap c = true) ∧ isWord source = false := by
  obtain ⟨gaps, left, rfl, gap, rfl | ⟨d, more, rfl, blank, solid⟩⟩ := blanks_split all
  · rw [List.append_nil] at opens ⊢
    refine ⟨gap, ?_⟩
    rw [dropWhile_gaps gap fun c first => (visible_source source rest c first).1] at opens
    rw [Bool.eq_false_iff]
    intro word
    -- a word begins with neither a bracket nor a quote
    have starts := (word_source word).1
    cases text : source.text with
    | nil => exact starts.nonempty text
    | cons d more =>
      obtain ⟨c, head, means⟩ := opens
      rw [text] at head
      cases head
      rw [text] at starts
      cases starts with
      | char _ indicator _ => rcases means with rfl | rfl | rfl <;> cases indicator
      | dash => simp at means
  · -- a blank that is no gap would open the text
    obtain ⟨c, head, means⟩ := opens
    rw [List.append_assoc, dropWhile_gaps gap (by rintro _ ⟨⟩; exact solid)] at head
    cases head
    rcases means with rfl | rfl | rfl <;> exact absurd blank (by decide)

/-- A stream that opens with an object, an array or a string and goes on in a later line with
another document is no YAML. -/
theorem rejected_stream {text : List Char} {first second : List Char} {others : List (List Char)}
    (given : documentLines text = first :: second :: others)
    {document document' : JsonGrammar.Document} (readFirst : document.text = first)
    (readSecond : document'.text = second)
    (opens : ∃ c ∈ (text.dropWhile isGap).head?, c = '[' ∨ c = '\x7b' ∨ c = '"') :
    Rejected (Token.ofText text) := by
  obtain ⟨front, back, rfl, frontBlank, more⟩ := first_line text given
  obtain ⟨returned, rest, rfl, returns, further⟩ := more (by simp)
  obtain ⟨front', back', rfl, frontBlank', -⟩ := first_line rest further
  cases readFirst
  cases readSecond
  have before : ∀ c ∈ front ++ document.before.val, Text.isBlank c = true :=
    List.forall_mem_append.mpr ⟨frontBlank, blank_of_blanks document.before⟩
  have before' : ∀ c ∈ front' ++ document'.before.val, Text.isBlank c = true :=
    List.forall_mem_append.mpr ⟨frontBlank', blank_of_blanks document'.before⟩
  obtain ⟨gaps, left, split, gap, first⟩ := blanks_split before'
  have tail : Visible (left ++ (document'.source.text ++ (document'.after.val ++ back'))) ∧
      Opening (left ++ (document'.source.text ++ (document'.after.val ++ back'))) := by
    rcases first with rfl | ⟨c, more, rfl, blank, solid⟩
    · exact ⟨visible_source _ _, opening_source _ _⟩
    · exact opening_blank blank solid _
  have between : ∀ c ∈ document.after.val ++ (returned ++ '\n' :: gaps), isGap c = true := by
    refine List.forall_mem_append.mpr ⟨gap_of_blanks document.after, ?_⟩
    refine List.forall_mem_append.mpr ⟨fun c member => returns c member ▸ rfl, ?_⟩
    exact List.forall_mem_cons.mpr ⟨rfl, gap⟩
  have text : front ++ (document.text ++
      (returned ++ '\n' :: (front' ++ (document'.text ++ back')))) =
      (front ++ document.before.val) ++ (document.source.text ++
        ((document.after.val ++ (returned ++ '\n' :: gaps)) ++
          (left ++ (document'.source.text ++ (document'.after.val ++ back'))))) := by
    have same : front' ++ (document'.before.val ++ (document'.source.text ++
        (document'.after.val ++ back'))) = gaps ++ (left ++ (document'.source.text ++
          (document'.after.val ++ back'))) := by
      rw [← List.append_assoc, split, List.append_assoc]
    simp only [JsonGrammar.Document.text, List.append_assoc, List.cons_append, same]
  rw [text] at opens ⊢
  obtain ⟨gapBefore, phrase⟩ := opens_phrase before opens
  exact rejected_text phrase gapBefore between (by simp [isBreak]) tail.1 tail.2

/-! ## Input -/

theorem values_error {nodes : List (Option Node)} (invalid : none ∈ nodes) (number : Nat) :
    ∃ error, Document.values number nodes = .error error := by
  induction nodes generalizing number with
  | nil => cases invalid
  | cons node rest ih =>
    cases node with
    | none => exact ⟨_, rfl⟩
    | some node =>
      rcases List.mem_cons.mp invalid with same | later
      · cases same
      · obtain ⟨error, failed⟩ := ih later (number + 1)
        exact ⟨error, by rw [Document.values, failed]; rfl⟩

/-- Documents of which one breaks the rules do not load. -/
theorem parse_error {text : List Char} (rejected : Rejected (Token.ofText text)) :
    ∃ error, Document.parse text = .error error := by
  have invalid : none ∈ Node.documents text :=
    List.mem_map.mpr ⟨none, rejected, rfl⟩
  obtain ⟨error, failed⟩ := values_error invalid 1
  exact ⟨error, by rw [Document.parse, failed]; rfl⟩

/-- Lines hold the documents that are read from the ones that are not blank. -/
theorem documents_of_read {lines : List (List Char)} {jsons : List Json}
    (read : (lines.filter (!Text.isBlankText ·)).map Json.parse? = jsons.map some) :
    Documents lines jsons := by
  induction lines generalizing jsons with
  | nil =>
    cases jsons with
    | nil => exact .none
    | cons => cases read
  | cons line rest ih =>
    cases blank : Text.isBlankText line with
    | true =>
      rw [List.filter_cons_of_neg (by simp [blank])] at read
      exact .blank blank (ih read)
    | false =>
      rw [List.filter_cons_of_pos (by simp [blank])] at read
      cases jsons with
      | nil => cases read
      | cons json others =>
        rw [List.map_cons, List.map_cons, List.cons.injEq] at read
        exact .document blank (holds_iff.mpr read.1) (ih read.2)

/-- The values of lines are those of the ones that are not blank, in their order. -/
theorem lineValues_documents {lines : List (List Char)} {jsons : List Json}
    (read : (lines.filter (!Text.isBlankText ·)).map Json.parse? = jsons.map some) (number : Nat) :
    Document.lineValues number lines = .ok (jsons.map Value.ofJson) :=
  JsonLines.lineValues_documents (documents_of_read read) number

theorem documents_read {lines : List (List Char)}
    (valid : ∀ line ∈ lines, (Json.parse? line).isSome = true) :
    ∃ jsons : List Json, lines.map Json.parse? = jsons.map some := by
  induction lines with
  | nil => exact ⟨[], rfl⟩
  | cons line rest ih =>
    obtain ⟨json, read⟩ := Option.isSome_iff_exists.mp (valid line List.mem_cons_self)
    obtain ⟨jsons, others⟩ := ih fun other member => valid other (List.mem_cons_of_mem line member)
    exact ⟨json :: jsons, by rw [List.map_cons, List.map_cons, read, others]⟩

theorem document_of_line {line : List Char} (valid : (Json.parse? line).isSome = true) :
    ∃ document : JsonGrammar.Document, document.text = line := by
  obtain ⟨json, read⟩ := Option.isSome_iff_exists.mp valid
  obtain ⟨document, text, -⟩ := JsonReading.parse_iff.mp read
  exact ⟨document, text⟩

/-- A stream of JSON documents on lines, two or more, loads from input as the list of its
documents, if it opens with an object, an array or a string. -/
theorem streams_load_as_lines {text : List Char} (several : 2 ≤ (documentLines text).length)
    (valid : ∀ line ∈ documentLines text, (Json.parse? line).isSome = true)
    (opens : ∃ c ∈ (text.dropWhile isGap).head?, c = '[' ∨ c = '\x7b' ∨ c = '"') :
    Document.parseInput text = Document.parseLines text ∧
      ∃ jsons : List Json, (documentLines text).map Json.parse? = jsons.map some ∧
        Document.parseLines text = .ok (.list (jsons.map Value.ofJson)) := by
  obtain ⟨jsons, read⟩ := documents_read valid
  match given : documentLines text, several with
  | first :: second :: others, _ =>
    rw [given] at valid
    have loaded : Document.parseLines text = .ok (.list (jsons.map Value.ofJson)) := by
      rw [Document.parseLines, lineValues_documents read]
      cases jsons with
      | nil =>
        rw [given] at read
        cases read
      | cons => rfl
    obtain ⟨document, readFirst⟩ := document_of_line (valid first List.mem_cons_self)
    obtain ⟨document', readSecond⟩ :=
      document_of_line (valid second (List.mem_cons_of_mem _ List.mem_cons_self))
    obtain ⟨error, failed⟩ := parse_error (rejected_stream given readFirst readSecond opens)
    refine ⟨?_, jsons, given ▸ read, loaded⟩
    unfold Document.parseInput
    rw [failed, loaded]
    rfl

/-- Two objects, each on a line of its own. -/
def twoObjects : List Char := "\x7b\"id\":1\x7d\n\x7b\"id\":2\x7d\n".toList

theorem two_objects_load_as_lines :
    2 ≤ (documentLines twoObjects).length ∧
      (∀ line ∈ documentLines twoObjects, (Json.parse? line).isSome = true) ∧
      (twoObjects.dropWhile isGap).head? = some '\x7b' ∧
      Document.parseInput twoObjects = Document.parseLines twoObjects ∧
      ∃ jsons : List Json, (documentLines twoObjects).map Json.parse? = jsons.map some ∧
        Document.parseLines twoObjects = .ok (.list (jsons.map Value.ofJson)) := by
  have several : 2 ≤ (documentLines twoObjects).length := by decide
  have valid : ∀ line ∈ documentLines twoObjects, (Json.parse? line).isSome = true :=
    List.all_eq_true.mp (by decide +kernel)
  have opens : (twoObjects.dropWhile isGap).head? = some '\x7b' := by decide
  exact ⟨several, valid, opens,
    streams_load_as_lines several valid ⟨'\x7b', opens, .inr (.inl rfl)⟩⟩

/-- YAML takes a number for a word that goes on in the next line. Behind a blank that is no gap of
YAML even objects are parts of a word. -/
theorem lines_of_numbers_are_one_word :
    (¬∀ text : List Char, 2 ≤ (documentLines text).length →
      (∀ line ∈ documentLines text, (Json.parse? line).isSome = true) →
      Document.parseInput text = Document.parseLines text) ∧
    Document.parseInput "\u00a0\n\x7b\"a\":1\x7d\n\x7b\"b\":2\x7d\n".toList =
      .ok (.string "\u00a0 \x7b\"a\":1\x7d \x7b\"b\":2\x7d") := by
  refine ⟨fun claimed => ?_, by rfl⟩
  have loaded : Document.parseInput "1\n2\n".toList = .ok (.string "1 2") := by rfl
  have listed : Document.parseLines "1\n2\n".toList =
      .ok (.list [Value.ofJson (.number (.natural 1)), Value.ofJson (.number (.natural 2))]) := by
    rfl
  have valid : ∀ line ∈ documentLines "1\n2\n".toList, (Json.parse? line).isSome = true :=
    List.all_eq_true.mp (by rfl)
  have same := claimed "1\n2\n".toList (by decide) valid
  rw [loaded, listed] at same
  cases same

end ValuePath.LinesAsInput
