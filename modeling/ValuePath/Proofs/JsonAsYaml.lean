import ValuePath.Document.Load
import ValuePath.Proofs.JsonContents
import ValuePath.Proofs.ReadBack

/-! A portable JSON document has the same value whether it is loaded as YAML or as
a line of JSON, but for the order of keys, which does not count. -/
namespace ValuePath.JsonAsYaml
open DistinctKeys JsonContents JsonGrammar JsonNumbers JsonTokens PortableJson ReadBack
open ValueEquality (equalEntries_iff)
open Numeric (Binary64 Number)

/-! ## Values -/

/-- Integers of 64 bits are rounded to finite numbers. -/
theorem ofInt_finite (n : UInt64) : (Binary64.ofInt n.toNat).isFinite = true := by
  have fits : n.toNat < 1 * 2 ^ 64 := by
    rw [Nat.one_mul]
    exact n.toNat_lt
  have small := Rounding.not_reachesPower fits (by decide : ((64 : Nat) : Int) ≤ 1023)
  have positive : decide ((n.toNat : Int) < 0) = false := decide_eq_false (by omega)
  obtain ⟨m, e, finite⟩ := Rounding.datum_finite false (by decide : 1 ≠ 0) small
  rw [Binary64.ofInt, positive, Int.natAbs_natCast, Binary64.isFinite, finite]

/-- The value of a number that is finite equals itself. -/
theorem equals_ofNumber {m : Number} (finite : ∀ x, m = .float x → x.isFinite = true) :
    (Value.ofNumber m).equals (Value.ofNumber m) = true := by
  cases held : m.toInt64? with
  | some i =>
    rw [ofNumber_integer held]
    exact equals_narrowed _
  | none =>
    cases m with
    | negative i => cases held
    | float x =>
      rw [ofNumber_float]
      exact equals_finite (finite x rfl)
    | natural n =>
      rw [Value.ofNumber, held]
      exact equals_finite (ofInt_finite n)

theorem keys_meanings : (pairs : Pairs) → Entries.keys pairs.meanings = names pairs
  | .last .. => rfl
  | .more _ key _ _ value _ rest => by
    rw [Pairs.meanings, keys_cons, keys_meanings rest]
    rfl

theorem keys_pairNodes : (pairs : Pairs) →
    Entries.keys (Value.ofYamlEntries (pairNodes pairs)) = names pairs
  | .last .. => rfl
  | .more _ key _ _ value _ rest => by
    rw [pairNodes, Value.ofYamlEntries, keys_cons, keys_pairNodes rest]
    rfl

mutual
/-- A portable value is the same in both formats. -/
theorem equals_source : (source : Source) → Portable source →
    (Value.ofJson source.meaning).equals (Value.ofYaml (sourceNode source)) = true
  | .null, _ => rfl
  | .boolean value, _ => by cases value <;> rfl
  | .number literal n denotes, portable =>
    equals_ofNumber (finite_of_exact (portable.exact literal n denotes .whole) denotes)
  | .string pieces, _ => beq_self_eq_true (spelt pieces)
  | .emptyArray _, _ => rfl
  | .array items, portable => equals_items items portable.items
  | .emptyObject _, _ => rfl
  | .object pairs, portable => by
    have distinct : (names pairs).Nodup := portable.distinct pairs .whole
    have distinctRead : Entries.Distinct pairs.meanings := by
      rwa [Entries.Distinct, keys_meanings]
    have distinctNodes : Entries.Distinct (Value.ofYamlEntries (pairNodes pairs)) := by
      rwa [Entries.Distinct, keys_pairNodes]
    have rearranged := perm_arranged distinctRead
    have lengths := congrArg List.length ((keys_meanings pairs).trans (keys_pairNodes pairs).symm)
    simp only [Entries.keys, List.length_map] at lengths
    rw [Source.meaning, Json.ofEntries, Value.ofJson, sourceNode, Value.ofYaml,
      ofPairs_of_distinct distinctNodes, Value.equals, Bool.and_eq_true, beq_iff_eq,
      equalEntries_iff, ofJsonEntries_eq_map]
    refine ⟨by rw [List.length_map, ← lengths]; exact rearranged.length_eq, ?_⟩
    intro entry member
    obtain ⟨⟨name, json⟩, held, rfl⟩ := List.mem_map.mp member
    obtain ⟨value, present, same⟩ := equals_pairs pairs portable.values name json
      (rearranged.mem_iff.mp held)
    exact ⟨value, find_of_mem distinctNodes present, same⟩

theorem equals_items : (items : Items) → (∀ item ∈ itemSources items, Portable item) →
    Value.equalItems (Value.ofJsonItems items.meanings) (Value.ofYamlItems (itemNodes items)) = true
  | .last _ item _, portable => by
    have same := equals_source item (portable item (List.mem_singleton_self _))
    simp [Items.meanings, itemNodes, Value.ofJsonItems, Value.ofYamlItems, Value.equalItems, same]
  | .more _ item _ rest, portable => by
    have same := equals_source item (portable item List.mem_cons_self)
    have others := equals_items rest fun other member =>
      portable other (List.mem_cons_of_mem _ member)
    simp [Items.meanings, itemNodes, Value.ofJsonItems, Value.ofYamlItems, Value.equalItems, same,
      others]

/-- Each entry of an object stands with an equal value under its name. -/
theorem equals_pairs : (pairs : Pairs) → (∀ value ∈ pairSources pairs, Portable value) →
    ∀ name json, (name, json) ∈ pairs.meanings → ∃ value,
      (name, value) ∈ Value.ofYamlEntries (pairNodes pairs) ∧
        (Value.ofJson json).equals value = true
  | .last _ key _ _ value _, portable, name, json, member => by
    rcases List.mem_singleton.mp member with ⟨⟩
    exact ⟨_, List.mem_cons_self, equals_source value (portable value (List.mem_singleton_self _))⟩
  | .more _ key _ _ value _ rest, portable, name, json, member => by
    rcases List.mem_cons.mp member with here | later
    · cases here
      exact ⟨_, List.mem_cons_self, equals_source value (portable value List.mem_cons_self)⟩
    · obtain ⟨held, present, same⟩ := equals_pairs rest
        (fun other member => portable other (List.mem_cons_of_mem _ member)) name json later
      exact ⟨held, List.mem_cons_of_mem _ present, same⟩
end

/-! ## Documents -/

/-- A value does not begin with a blank. -/
theorem source_visible (source : Source) :
    ∃ c more, source.text = c :: more ∧ Text.isBlank c = false := by
  cases source with
  | null | string | emptyArray | array | emptyObject | object => exact ⟨_, _, rfl, by decide⟩
  | boolean value => cases value <;> exact ⟨_, _, rfl, by decide⟩
  | number literal n denotes =>
    obtain ⟨c, more, written, minus | digit⟩ := JsonReading.literal_head literal
    · exact ⟨c, more, written, minus ▸ by decide⟩
    · refine ⟨c, more, written, ?_⟩
      have cases := digit_cases digit
      simp only [List.mem_cons, List.not_mem_nil, or_false] at cases
      rcases cases with rfl | rfl | rfl | rfl | rfl | rfl | rfl | rfl | rfl | rfl <;> decide

/-- A document without ends of lines is one line that is not blank. -/
theorem lines_document {document : JsonGrammar.Document} (unbroken : Unbroken document.text) :
    Text.lines document.text = [document.text] ∧ Text.isBlankText document.text = false := by
  obtain ⟨c, more, written, visible⟩ := source_visible document.source
  have member : c ∈ document.text := by simp [JsonGrammar.Document.text, written]
  have single : '\n' ∉ document.text := fun held => by
    cases unbroken '\n' held
  constructor
  · have nonempty : document.text ≠ [] := List.ne_nil_of_mem member
    simp [Text.lines, List.splitOn_eq_singleton single, nonempty]
  · rw [Text.isBlankText, Bool.eq_false_iff]
    intro blank
    rw [List.all_eq_true.mp blank c member] at visible
    cases visible

/-- A portable document, nested as deep as JSON allows, loads as YAML, and as a line
of JSON it loads as the list of an equal value. -/
theorem portable_documents_load_alike {document : JsonGrammar.Document}
    (portable : PortableDocument document) (shallow : document.source.depth ≤ Json.depthLimit) :
    Json.parse? document.text = some document.source.meaning ∧
      ∃ value, Document.parse document.text = .ok value ∧
        Document.parseLines document.text = .ok (.list [Value.ofJson document.source.meaning]) ∧
        (Value.list [Value.ofJson document.source.meaning]).equals (.list [value]) = true := by
  have read : Json.parse? document.text = some document.source.meaning :=
    JsonReading.parse_iff.mpr ⟨document, rfl, rfl, shallow⟩
  obtain ⟨single, visible⟩ := lines_document portable.unbroken
  have shallower : document.source.depth ≤ 128 := shallow.trans (by decide)
  have documents := documents_of_portable portable shallower
  have same := equals_source document.source portable.portable
  refine ⟨read, Value.ofYaml (sourceNode document.source), ?_, ?_, ?_⟩
  · rw [Document.parse, documents]
    rfl
  · rw [Document.parseLines, single, Document.lineValues, visible, read]
    rfl
  · simp [Value.equals, Value.equalItems, same]

/-- A character that is spelt by the halves of a pair is no YAML. -/
theorem paired_escape_is_not_yaml :
    ¬ ∀ (text : List Char) (json : Json), (∀ c ∈ text, Yaml.isBreak c = false) →
      Json.parse? text = some json → ∃ value, Document.parse text = .ok value := by
  intro claimed
  have paired : Json.parse? "\"\\ud83d\\ude00\"".toList = some (.string "😀") := by rfl
  have rejected : Document.parse "\"\\ud83d\\ude00\"".toList =
      .error (.invalidDocument 1) := by rfl
  have unbroken : "\"\\ud83d\\ude00\"".toList.any Yaml.isBreak = false := by decide
  obtain ⟨value, loaded⟩ := claimed _ _ (fun c member =>
    Bool.eq_false_iff.mpr (List.any_eq_false.mp unbroken c member)) paired
  rw [rejected] at loaded
  cases loaded

/-! ## A document of two numbers -/

def unspaced : Blanks := ⟨[], by simp⟩

def oneAndAHalf : Literal where
  negative := false
  whole := ⟨['1'], by simp, by simp [Numeric.isDecimalDigit]⟩
  unpadded := by simp
  fraction := some ⟨['5'], by simp, by simp [Numeric.isDecimalDigit]⟩
  exponent := none

def minusTwo : Literal where
  negative := true
  whole := ⟨['2'], by simp, by simp [Numeric.isDecimalDigit]⟩
  unpadded := by simp
  fraction := none
  exponent := none

theorem oneAndAHalf_denotes :
    oneAndAHalf.number? = some (.float (nearestDecimal false 15 (-1))) := by
  rw [number_decimal (by decide) (by decide)]
  exact ofParts_exact (by decide) (by decide) false

/-- An object that holds the two numbers in an array. -/
def sizes : JsonGrammar.Document where
  before := unspaced
  source := .object (.last unspaced [.plain 'm' (by decide)] unspaced unspaced
    (.array (.more unspaced (.number oneAndAHalf _ oneAndAHalf_denotes) unspaced
      (.last unspaced (.number minusTwo (.negative (-2)) rfl) unspaced))) unspaced)
  after := unspaced

theorem sizes_text : sizes.text = "\x7b\"m\":[1.5,-2]\x7d".toList := rfl

theorem portable_sizes : PortableDocument sizes where
  allowed := by
    rw [sizes_text]
    exact List.all_eq_true.mp (by decide)
  unbroken c member := by
    rw [sizes_text] at member
    have unbroken : "\x7b\"m\":[1.5,-2]\x7d".toList.any Yaml.isBreak = false := by decide
    exact Bool.eq_false_iff.mpr (List.any_eq_false.mp unbroken c member)
  untabbed := by simp [sizes, unspaced]
  portable := by
    refine portable_object ?_ ?_ ?_
    · intro value member
      rcases List.mem_singleton.mp member with rfl
      refine portable_array fun item member => ?_
      simp only [itemSources, List.mem_cons, List.not_mem_nil, or_false] at member
      rcases member with rfl | rfl
      · exact portable_number (by decide)
      · exact portable_number (by decide)
    · intro key member
      rcases List.mem_singleton.mp member with rfl
      exact ⟨by simp [isPair], by decide⟩
    · simp [pairKeys]

theorem sizes_load_alike :
    sizes.text = "\x7b\"m\":[1.5,-2]\x7d".toList ∧ PortableDocument sizes ∧
      sizes.source.depth ≤ Json.depthLimit ∧
      ∃ value, Document.parse sizes.text = .ok value ∧
        Document.parseLines sizes.text = .ok (.list [Value.ofJson sizes.source.meaning]) ∧
        (Value.list [Value.ofJson sizes.source.meaning]).equals (.list [value]) = true := by
  have shallow : sizes.source.depth ≤ Json.depthLimit := by decide
  exact ⟨sizes_text, portable_sizes, shallow,
    (portable_documents_load_alike portable_sizes shallow).2⟩

end ValuePath.JsonAsYaml
