import ValuePath.Document.Load
import ValuePath.Proofs.JsonReading

/-! JSON lines. A line feed ends a line and takes a carriage return before it along; every
line that is not blank holds one document. Loading gives the list of the documents in their
order, or it names the first line that holds none. So the texts of two loads can be put one
behind the other. -/
namespace ValuePath.JsonLines
open JsonGrammar
open Numeric (isDecimalDigit)

/-- The physical lines of a text. Behind the last line feed there may be one more line,
which keeps a carriage return at its end, unless there is nothing. -/
inductive Lines : List Char → List (List Char) → Prop where
  | none : Lines [] []
  | last (unbroken : '\n' ∉ line) (nonempty : line ≠ []) : Lines line [line]
  | feed (unbroken : '\n' ∉ line) (bare : line.getLast? ≠ some '\r') (behind : Lines rest lines) :
      Lines (line ++ '\n' :: rest) (line :: lines)
  | returned (unbroken : '\n' ∉ line) (behind : Lines rest lines) :
      Lines (line ++ '\r' :: '\n' :: rest) (line :: lines)

/-- The line is written in the grammar and means this document. -/
def Holds (line : List Char) (json : Json) : Prop :=
  ∃ document : JsonGrammar.Document, document.text = line ∧ document.source.meaning = json ∧
    document.source.depth ≤ Json.depthLimit

/-- The lines that are not blank hold these documents, each line one of them. -/
inductive Documents : List (List Char) → List Json → Prop where
  | none : Documents [] []
  | blank (blank : Text.isBlankText line = true) (behind : Documents lines jsons) :
      Documents (line :: lines) jsons
  | document (visible : Text.isBlankText line = false) (holds : Holds line json)
      (behind : Documents lines jsons) : Documents (line :: lines) (json :: jsons)

/-- What loading lines comes to. Lines are counted from 1, the blank ones as well. -/
inductive Outcome (lines : List (List Char)) : Except LoadError Value → Prop where
  | loaded (documents : Documents lines jsons) (nonempty : jsons ≠ []) :
      Outcome lines (.ok (.list (jsons.map Value.ofJson)))
  | invalid (split : lines = before ++ line :: after) (earlier : Documents before jsons)
      (visible : Text.isBlankText line = false) (holdsNone : ∀ json, ¬ Holds line json) :
      Outcome lines (.error (.invalidLine (before.length + 1)))
  | blank (all : ∀ line ∈ lines, Text.isBlankText line = true) : Outcome lines (.error .noLines)

/-! ## Physical lines -/

theorem lines_single {text : List Char} (single : '\n' ∉ text) :
    Text.lines text = if text.isEmpty then [] else [text] := by
  simp [Text.lines, List.splitOn_eq_singleton single]

theorem lines_more {line rest : List Char} (single : '\n' ∉ line) :
    Text.lines (line ++ '\n' :: rest) = Text.dropReturn line :: Text.lines rest := by
  obtain ⟨first, others, parts⟩ := List.exists_cons_of_ne_nil (List.splitOn_ne_nil '\n' rest)
  simp [Text.lines, List.splitOn_append_cons_self_of_not_mem single, parts]

theorem dropReturn_bare {line : List Char} (bare : line.getLast? ≠ some '\r') :
    Text.dropReturn line = line := if_neg bare

theorem dropReturn_returned (line : List Char) : Text.dropReturn (line ++ ['\r']) = line := by
  simp [Text.dropReturn]

theorem lines_of_text {text : List Char} {lines : List (List Char)} (physical : Lines text lines) :
    Text.lines text = lines := by
  induction physical with
  | none => rfl
  | @last line unbroken nonempty => simp [lines_single unbroken, nonempty]
  | feed unbroken bare behind ih => rw [lines_more unbroken, dropReturn_bare bare, ih]
  | @returned line rest lines unbroken behind ih =>
    have unbrokenToo : '\n' ∉ line ++ ['\r'] := by simp [unbroken]
    have text : line ++ '\r' :: '\n' :: rest = (line ++ ['\r']) ++ '\n' :: rest := by simp
    rw [text, lines_more unbrokenToo, dropReturn_returned, ih]

theorem lines_exist (text : List Char) : ∃ lines, Lines text lines := by
  by_cases broken : '\n' ∈ text
  · obtain ⟨line, rest, rfl, unbroken⟩ := List.eq_append_cons_of_mem broken
    have shorter : rest.length < (line ++ '\n' :: rest).length := by
      rw [List.length_append, List.length_cons]
      omega
    obtain ⟨lines, behind⟩ := lines_exist rest
    by_cases returned : line.getLast? = some '\r'
    · obtain ⟨start, rfl⟩ := List.getLast?_eq_some_iff.mp returned
      have unbrokenToo : '\n' ∉ start := fun member => unbroken (List.mem_append_left _ member)
      refine ⟨start :: lines, ?_⟩
      rw [List.append_assoc]
      exact .returned unbrokenToo behind
    · exact ⟨line :: lines, .feed unbroken returned behind⟩
  · by_cases empty : text = []
    · exact ⟨[], empty ▸ .none⟩
    · exact ⟨[text], .last broken empty⟩
termination_by text.length

/-! ## Documents on lines -/

theorem holds_iff {line : List Char} {json : Json} : Holds line json ↔ Json.parse? line = some json :=
  JsonReading.parse_iff.symm

theorem parse_none_iff {line : List Char} : Json.parse? line = none ↔ ∀ json, ¬ Holds line json := by
  simp only [holds_iff, Option.eq_none_iff_forall_ne_some, ne_eq]

theorem Documents.append {lines more : List (List Char)} {jsons others : List Json}
    (first : Documents lines jsons) (second : Documents more others) :
    Documents (lines ++ more) (jsons ++ others) := by
  induction first with
  | none => exact second
  | blank blank behind ih => exact .blank blank ih
  | document visible holds behind ih => exact .document visible holds ih

theorem Documents.imp_tail {line : List Char} {lines more : List (List Char)} {jsons : List Json}
    (documents : Documents (line :: lines) jsons)
    (kept : ∀ jsons, Documents lines jsons → Documents more jsons) :
    Documents (line :: more) jsons := by
  cases documents with
  | blank blank behind => exact .blank blank (kept _ behind)
  | document visible holds behind => exact .document visible holds (kept _ behind)

/-- Lines without documents are blank. -/
theorem documents_nil_iff {lines : List (List Char)} :
    Documents lines [] ↔ ∀ line ∈ lines, Text.isBlankText line = true := by
  induction lines with
  | nil => exact ⟨fun _ => nofun, fun _ => .none⟩
  | cons line rest ih =>
    rw [List.forall_mem_cons, ← ih]
    constructor
    · rintro (_ | ⟨blank, behind⟩)
      exact ⟨blank, behind⟩
    · rintro ⟨blank, behind⟩
      exact .blank blank behind

/-- The lines hold documents exactly if every line that is not blank holds one. -/
theorem documents_exist_iff {lines : List (List Char)} : (∃ jsons, Documents lines jsons) ↔
    ∀ line ∈ lines, Text.isBlankText line = false → ∃ json, Holds line json := by
  induction lines with
  | nil => exact ⟨fun _ => nofun, fun _ => ⟨[], .none⟩⟩
  | cons line rest ih =>
    rw [List.forall_mem_cons, ← ih]
    constructor
    · rintro ⟨jsons, documents⟩
      cases documents with
      | blank blank behind => exact ⟨fun visible => by simp [blank] at visible, _, behind⟩
      | document visible holds behind => exact ⟨fun _ => ⟨_, holds⟩, _, behind⟩
    · rintro ⟨here, jsons, behind⟩
      cases blank : Text.isBlankText line with
      | true => exact ⟨jsons, .blank blank behind⟩
      | false =>
        obtain ⟨json, holds⟩ := here blank
        exact ⟨json :: jsons, .document blank holds behind⟩

/-- Where not every line that counts holds a document, there is a first one that does not. -/
theorem first_invalid {lines : List (List Char)} (invalid : ¬ ∃ jsons, Documents lines jsons) :
    ∃ before line after jsons, lines = before ++ line :: after ∧ Documents before jsons ∧
      Text.isBlankText line = false ∧ ∀ json, ¬ Holds line json := by
  induction lines with
  | nil => exact absurd ⟨[], .none⟩ invalid
  | cons line rest ih =>
    by_cases passes : ∃ here, Documents [line] here
    · obtain ⟨here, documents⟩ := passes
      have behind : ¬ ∃ jsons, Documents rest jsons := by
        rintro ⟨jsons, later⟩
        exact invalid ⟨here ++ jsons, documents.append later⟩
      obtain ⟨before, found, after, jsons, rfl, earlier, visible, holdsNone⟩ := ih behind
      exact ⟨line :: before, found, after, here ++ jsons, rfl, documents.append earlier, visible,
        holdsNone⟩
    · refine ⟨[], line, rest, [], rfl, .none, ?_, fun json holds => ?_⟩
      · rw [Bool.eq_false_iff]
        exact fun blank => passes ⟨[], .blank blank .none⟩
      · cases blank : Text.isBlankText line with
        | true => exact passes ⟨[], .blank blank .none⟩
        | false => exact passes ⟨[json], .document blank holds .none⟩

/-- Where there is a document there is a line that is not blank. -/
theorem documents_visible {lines : List (List Char)} {jsons : List Json}
    (documents : Documents lines jsons) (nonempty : jsons ≠ []) :
    ∃ line ∈ lines, Text.isBlankText line = false := by
  induction documents with
  | none => exact absurd rfl nonempty
  | blank blank behind ih =>
    obtain ⟨line, member, visible⟩ := ih nonempty
    exact ⟨line, List.mem_cons_of_mem _ member, visible⟩
  | @document line json lines jsons visible holds behind ih =>
    exact ⟨line, List.mem_cons_self, visible⟩

/-! ## The loop over the lines -/

section Loop
variable {text line : List Char} {lines : List (List Char)} {jsons : List Json}

/-- The loop goes through lines that hold documents, whatever comes behind them. -/
theorem lineValues_append (documents : Documents lines jsons) (number : Nat)
    (rest : List (List Char)) : Document.lineValues number (lines ++ rest) =
      (Document.lineValues (number + lines.length) rest).map (jsons.map Value.ofJson ++ ·) := by
  induction documents generalizing number with
  | none =>
    rw [List.nil_append, List.length_nil, Nat.add_zero]
    cases Document.lineValues number rest <;> rfl
  | @blank line lines jsons blank behind ih =>
    have counted : number + 1 + lines.length = number + (line :: lines).length := by
      rw [List.length_cons]
      omega
    rw [List.cons_append, Document.lineValues, if_pos blank, ih, counted]
  | @document line json lines jsons visible holds behind ih =>
    have counted : number + 1 + lines.length = number + (line :: lines).length := by
      rw [List.length_cons]
      omega
    have shown : ¬ Text.isBlankText line = true := by simp [visible]
    rw [List.cons_append, Document.lineValues, if_neg shown, holds_iff.mp holds]
    simp only [ih, counted]
    cases Document.lineValues (number + (line :: lines).length) rest <;> rfl

theorem lineValues_documents (documents : Documents lines jsons) (number : Nat) :
    Document.lineValues number lines = .ok (jsons.map Value.ofJson) := by
  have passed := lineValues_append documents number []
  rw [List.append_nil] at passed
  rw [passed, Document.lineValues, Except.map, List.append_nil]

/-- The loop stops at a line that counts and holds no document. -/
theorem lineValues_invalid (visible : Text.isBlankText line = false)
    (holdsNone : ∀ json, ¬ Holds line json) (number : Nat) (after : List (List Char)) :
    Document.lineValues number (line :: after) = .error (.invalidLine number) := by
  have shown : ¬ Text.isBlankText line = true := by simp [visible]
  rw [Document.lineValues, if_neg shown, parse_none_iff.mpr holdsNone]

theorem parseLines_of_outcome {result : Except LoadError Value} (outcome : Outcome lines result)
    (physical : Lines text lines) : Document.parseLines text = result := by
  rw [Document.parseLines, lines_of_text physical]
  cases outcome with
  | @loaded jsons documents nonempty =>
    rw [lineValues_documents documents]
    cases jsons with
    | nil => exact absurd rfl nonempty
    | cons json others => rfl
  | invalid split earlier visible holdsNone =>
    rw [split, lineValues_append earlier, lineValues_invalid visible holdsNone, Nat.add_comm]
    rfl
  | blank all => rw [lineValues_documents (documents_nil_iff.mpr all), List.map_nil]

/-- All lines that count hold documents, or there is a first one that does not. -/
theorem outcome_exists (lines : List (List Char)) : ∃ result, Outcome lines result := by
  by_cases valid : ∃ jsons, Documents lines jsons
  · obtain ⟨jsons, documents⟩ := valid
    by_cases empty : jsons = []
    · subst empty
      exact ⟨_, .blank (documents_nil_iff.mp documents)⟩
    · exact ⟨_, .loaded documents empty⟩
  · obtain ⟨before, line, after, jsons, split, earlier, visible, holdsNone⟩ := first_invalid valid
    exact ⟨_, .invalid split earlier visible holdsNone⟩

/-- Loading lines gives exactly what it comes to. -/
theorem parseLines_iff (physical : Lines text lines) {result : Except LoadError Value} :
    Document.parseLines text = result ↔ Outcome lines result := by
  refine ⟨?_, fun outcome => parseLines_of_outcome outcome physical⟩
  rintro rfl
  obtain ⟨result, outcome⟩ := outcome_exists lines
  rwa [parseLines_of_outcome outcome physical]

theorem loads_iff (physical : Lines text lines) :
    (∃ value, Document.parseLines text = .ok value) ↔
      (∃ line ∈ lines, Text.isBlankText line = false) ∧
        ∀ line ∈ lines, Text.isBlankText line = false → ∃ json, Holds line json := by
  rw [← documents_exist_iff]
  constructor
  · rintro ⟨value, loads⟩
    cases (parseLines_iff physical).mp loads with
    | loaded documents nonempty => exact ⟨documents_visible documents nonempty, _, documents⟩
  · rintro ⟨⟨line, member, visible⟩, jsons, documents⟩
    have nonempty : jsons ≠ [] := by
      rintro rfl
      rw [documents_nil_iff.mp documents line member] at visible
      cases visible
    exact ⟨_, (parseLines_iff physical).mpr (.loaded documents nonempty)⟩

end Loop

/-! ## Texts behind each other -/

/-- The text ends with a digit. -/
def EndsWithDigit (text : List Char) : Prop :=
  ∃ c, text.getLast? = some c ∧ isDecimalDigit c = true

theorem EndsWithDigit.behind {back : List Char} (ends : EndsWithDigit back) (front : List Char) :
    EndsWithDigit (front ++ back) := by
  obtain ⟨c, last, digit⟩ := ends
  exact ⟨c, by rw [List.getLast?_append, last]; rfl, digit⟩

theorem digits_last (digits : Digits) : EndsWithDigit digits.val := by
  obtain ⟨nonempty, all⟩ := digits.property
  exact ⟨_, List.getLast?_eq_some_getLast nonempty, all _ (List.getLast_mem nonempty)⟩

theorem literal_last (literal : Literal) : EndsWithDigit literal.text := by
  obtain ⟨negative, whole, unpadded, fraction, exponent⟩ := literal
  apply EndsWithDigit.behind
  cases exponent with
  | some exponent =>
    have ends : EndsWithDigit exponent.text :=
      (digits_last exponent.digits).behind (exponent.letter :: exponent.sign.toList)
    exact (ends.behind _).behind _
  | none =>
    cases fraction with
    | some fraction =>
      have ends : EndsWithDigit ('.' :: fraction.val) := (digits_last fraction).behind ['.']
      simpa [fractionText, exponentText] using ends.behind whole.val
    | none => simpa [fractionText, exponentText] using digits_last whole

theorem not_separator_of_digit {c : Char} (digit : isDecimalDigit c = true) :
    Json.isSeparator c = false := by
  rw [Bool.eq_false_iff]
  intro separator
  simp only [Json.isSeparator, Bool.or_eq_true, beq_iff_eq] at separator
  rcases separator with ((rfl | rfl) | rfl) | rfl <;> exact absurd digit (by decide)

theorem enclosed_last (opening closing : Char) (inside : List Char) :
    (opening :: (inside ++ [closing])).getLast? = some closing := by
  rw [← List.cons_append, List.getLast?_concat]

/-- A value does not end with a blank. -/
theorem source_last (source : Source) :
    ∃ c, source.text.getLast? = some c ∧ Json.isSeparator c = false := by
  cases source with
  | null => exact ⟨'l', rfl, by decide⟩
  | boolean value => cases value <;> exact ⟨'e', rfl, by decide⟩
  | number literal n denotes =>
    obtain ⟨c, last, digit⟩ := literal_last literal
    exact ⟨c, last, not_separator_of_digit digit⟩
  | string | emptyArray | array | emptyObject | object =>
    exact ⟨_, enclosed_last _ _ _, by decide⟩

/-- A carriage return at the end of a line is one of the blanks behind its document. -/
theorem holds_without_return {line : List Char} {json : Json} (holds : Holds (line ++ ['\r']) json) :
    Holds line json := by
  obtain ⟨⟨before, source, after⟩, text, meaning, shallow⟩ := holds
  rw [JsonGrammar.Document.text] at text
  rcases List.eq_nil_or_concat after.val with none | ⟨blanks, last, split⟩
  · -- then the document would end with the carriage return
    obtain ⟨c, ends, visible⟩ := source_last source
    rw [none, List.append_nil] at text
    have same := congrArg List.getLast? text
    rw [List.getLast?_append, ends, List.getLast?_concat] at same
    cases same
    cases visible
  · rw [split, List.concat_eq_append, ← List.append_assoc, ← List.append_assoc] at text
    obtain ⟨kept, -⟩ := List.append_inj' text rfl
    have separators : ∀ c ∈ blanks, Json.isSeparator c = true := fun c member =>
      after.property c (by rw [split, List.concat_eq_append]; exact List.mem_append_left _ member)
    refine ⟨⟨before, source, ⟨blanks, separators⟩⟩, ?_, meaning, shallow⟩
    rw [← kept, JsonGrammar.Document.text, List.append_assoc]

theorem blank_with_return (line : List Char) :
    Text.isBlankText (line ++ ['\r']) = Text.isBlankText line := by
  have return_blank : Text.isBlank '\r' = true := by decide
  simp [Text.isBlankText, return_blank]

/-- A line holds what it holds also where its carriage return falls away. -/
theorem documents_without_return {line : List Char} {jsons : List Json}
    (documents : Documents [line ++ ['\r']] jsons) : Documents [line] jsons := by
  cases documents with
  | blank blank behind => exact .blank (blank_with_return line ▸ blank) behind
  | document visible holds behind =>
    exact .document (blank_with_return line ▸ visible) (holds_without_return holds) behind

/-- A line feed and a further text end the last line, and change no document. -/
theorem Lines.followed {text more : List Char} {lines others : List (List Char)}
    (first : Lines text lines) (second : Lines more others) :
    ∃ ended, Lines (text ++ '\n' :: more) (ended ++ others) ∧
      ∀ jsons, Documents lines jsons → Documents ended jsons := by
  induction first with
  | none =>
    refine ⟨[[]], .feed List.not_mem_nil (by simp) second, fun jsons documents => ?_⟩
    exact (Documents.blank rfl .none : Documents [[]] []).append documents
  | @last line unbroken nonempty =>
    by_cases returned : line.getLast? = some '\r'
    · obtain ⟨start, rfl⟩ := List.getLast?_eq_some_iff.mp returned
      have unbrokenToo : '\n' ∉ start := fun member => unbroken (List.mem_append_left _ member)
      refine ⟨[start], ?_, fun jsons documents => documents_without_return documents⟩
      rw [List.append_assoc]
      exact .returned unbrokenToo second
    · exact ⟨[line], .feed unbroken returned second, fun jsons documents => documents⟩
  | @feed line rest lines unbroken bare behind ih =>
    obtain ⟨ended, joined, kept⟩ := ih
    refine ⟨line :: ended, ?_, fun jsons documents => documents.imp_tail kept⟩
    rw [List.append_assoc]
    exact .feed unbroken bare joined
  | @returned line rest lines unbroken behind ih =>
    obtain ⟨ended, joined, kept⟩ := ih
    refine ⟨line :: ended, ?_, fun jsons documents => documents.imp_tail kept⟩
    rw [List.append_assoc]
    exact .returned unbroken joined

theorem parseLines_followed {first second : List Char} {value other : Value}
    (firstLoads : Document.parseLines first = .ok value)
    (secondLoads : Document.parseLines second = .ok other) :
    ∃ values others, value = .list values ∧ other = .list others ∧
      Document.parseLines (first ++ '\n' :: second) = .ok (.list (values ++ others)) := by
  obtain ⟨lines, physical⟩ := lines_exist first
  obtain ⟨more, physicalToo⟩ := lines_exist second
  obtain ⟨ended, joined, kept⟩ := physical.followed physicalToo
  cases (parseLines_iff physical).mp firstLoads with
  | @loaded jsons documents nonempty =>
    cases (parseLines_iff physicalToo).mp secondLoads with
    | @loaded others documentsToo nonemptyToo =>
      refine ⟨_, _, rfl, rfl, (parseLines_iff joined).mpr ?_⟩
      rw [← List.map_append]
      exact .loaded ((kept _ documents).append documentsToo) (by simp [nonempty])

/-- Loading JSON lines is exact. A text has just one division into lines. It loads as the list
of its documents in their order if there is a line that is not blank and every such line holds
a document; else the first line that holds none is named by its number, or it is said that
all lines are blank. Two texts that load give one that loads, with both lists, if a line feed
is put between them. -/
theorem json_lines_are_exact :
    (∀ text, ∃ lines, Lines text lines ∧ (∀ others, Lines text others → others = lines) ∧
      (∀ result, Document.parseLines text = result ↔ Outcome lines result) ∧
      ((∃ value, Document.parseLines text = .ok value) ↔
        (∃ line ∈ lines, Text.isBlankText line = false) ∧
          ∀ line ∈ lines, Text.isBlankText line = false → ∃ json, Holds line json)) ∧
    (∀ number, (LoadError.invalidLine number).message =
      "Invalid JSON on line " ++ toString number) ∧
    LoadError.noLines.message = "No valid JSON found in JSONL content" ∧
    ∀ first second value other, Document.parseLines first = .ok value →
      Document.parseLines second = .ok other →
      ∃ values others, value = .list values ∧ other = .list others ∧
        Document.parseLines (first ++ '\n' :: second) = .ok (.list (values ++ others)) := by
  refine ⟨fun text => ?_, fun number => ?_, rfl, fun _ _ _ _ => parseLines_followed⟩
  · obtain ⟨lines, physical⟩ := lines_exist text
    exact ⟨lines, physical, fun others also => (lines_of_text also).symm.trans
      (lines_of_text physical), fun _ => parseLines_iff physical, loads_iff physical⟩
  · rfl

/-- A text whose last line ends with a carriage return alone. -/
def openEnded : List Char := "\n\"a\"\r".toList

/-- A text whose first line is blank. -/
def blankFirst : List Char := " \r\n[true]\n".toList

/-- The carriage return falls away where another text is put behind it. -/
theorem readings_load_behind_each_other :
    Document.parseLines openEnded = .ok (.list [.string "a"]) ∧
      Document.parseLines blankFirst = .ok (.list [.list [.boolean true]]) ∧
      Document.parseLines (openEnded ++ '\n' :: blankFirst) =
        .ok (.list [.string "a", .list [.boolean true]]) := by
  have firstLoads : Document.parseLines openEnded = .ok (.list [.string "a"]) := by cbv
  have secondLoads : Document.parseLines blankFirst = .ok (.list [.list [.boolean true]]) := by cbv
  obtain ⟨values, others, same, sameToo, joined⟩ :=
    json_lines_are_exact.2.2.2 openEnded blankFirst _ _ firstLoads secondLoads
  cases same
  cases sameToo
  exact ⟨firstLoads, secondLoads, joined⟩

end ValuePath.JsonLines
