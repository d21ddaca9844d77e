import ValuePath.Proofs.MemberCalls

/-! Parts of a text by position. The part between two positions has the length that
lies between them, and so much text before it as the first position says. A string
answers with exactly the parts whose bounds lie within it; but where only the first
bound is given, the part ends at the greatest position that an int can name, however
long the text is. -/
namespace ValuePath.TextParts
open MemberCalls

/-- The characters of a text from one position up to and not including another one. -/
def Part (text : String) (first last : Int) (part : String) : Prop :=
  ∃ before after, text = before ++ part ++ after ∧ (before.length : Int) = first ∧
    first + part.length = last

/-! ## Parts -/

section Parts
variable {text part other : String} {first middle last : Int}

theorem Part.bounds (stands : Part text first last part) :
    0 ≤ first ∧ first ≤ last ∧ last ≤ text.length := by
  obtain ⟨before, after, rfl, start, stop⟩ := stands
  simp only [String.length_append]
  omega

/-- A part is what the characters before it and behind it leave. -/
theorem Part.characters (stands : Part text first last part) :
    part.toList = (text.toList.drop first.toNat).take (last.toNat - first.toNat) := by
  obtain ⟨before, after, rfl, start, stop⟩ := stands
  have passed : first.toNat = before.toList.length := by rw [String.length_toList]; omega
  have taken : last.toNat - first.toNat = part.toList.length := by
    rw [String.length_toList]; omega
  rw [taken, passed, String.toList_append, String.toList_append, List.append_assoc,
    List.drop_left, List.take_left]

theorem part_of_characters (bounds : 0 ≤ first ∧ first ≤ last ∧ last ≤ text.length)
    (characters : part.toList = (text.toList.drop first.toNat).take (last.toNat - first.toNat)) :
    Part text first last part := by
  have long : text.toList.length = text.length := text.length_toList
  refine ⟨String.ofList (text.toList.take first.toNat),
    String.ofList ((text.toList.drop first.toNat).drop (last.toNat - first.toNat)), ?_, ?_, ?_⟩
  · rw [← String.toList_inj]
    simp only [String.toList_append, String.toList_ofList, characters, List.append_assoc,
      List.take_append_drop]
  · rw [String.length_ofList, List.length_take]
    omega
  · rw [← String.length_toList, characters, List.length_take, List.length_drop]
    omega

theorem part_iff : Part text first last part ↔
    (0 ≤ first ∧ first ≤ last ∧ last ≤ text.length) ∧
      part.toList = (text.toList.drop first.toNat).take (last.toNat - first.toNat) :=
  ⟨fun stands => ⟨stands.bounds, stands.characters⟩,
    fun ⟨bounds, characters⟩ => part_of_characters bounds characters⟩

theorem Part.unique (stands : Part text first last part) (also : Part text first last other) :
    part = other :=
  String.toList_inj.mp (stands.characters.trans also.characters.symm)

theorem part_exists (positive : 0 ≤ first) (ordered : first ≤ last) (inside : last ≤ text.length) :
    ∃ part, Part text first last part :=
  ⟨String.ofList _, part_of_characters ⟨positive, ordered, inside⟩ String.toList_ofList⟩

/-- A part that ends where another one begins makes one part with it. -/
theorem Part.join {front rest : String} (stands : Part text first middle front)
    (behind : Part text middle last rest) : Part text first last (front ++ rest) := by
  have low := stands.bounds
  have high := behind.bounds
  have length : last.toNat - first.toNat =
      (middle.toNat - first.toNat) + (last.toNat - middle.toNat) := by omega
  have start : first.toNat + (middle.toNat - first.toNat) = middle.toNat := by omega
  refine part_of_characters (by omega) ?_
  rw [String.toList_append, stands.characters, behind.characters, length, List.take_add,
    List.drop_drop, start]

theorem part_whole_iff : Part text 0 text.length part ↔ part = text := by
  constructor
  · intro stands
    exact stands.unique ⟨"", "", by simp, by simp, by simp⟩
  · rintro rfl
    exact ⟨"", "", by simp, by simp, by simp⟩

end Parts

/-! ## What strings answer -/

theorem toInt_charCount (text : String) :
    (StringMembers.charCount text).toInt = min (text.length : Int) greatestInt := by
  have power : Nat.pow 2 31 = 2 ^ 31 := rfl
  have small : min text.length (2 ^ 31 - 1) < 2 ^ 31 := by omega
  rw [StringMembers.charCount, power, Int32.toInt_ofNat_of_lt small, greatestInt]
  omega

theorem charRange_ok_iff {text : String} {first last : Int32} {result : Value} :
    StringMembers.charRange text first last = .ok result ↔
      ∃ part, result = .string part ∧ Part text first.toInt last.toInt part := by
  have counted := toInt_charCount text
  have named := toInt_le_greatest last
  simp only [StringMembers.charRange, Int32.lt_iff_toInt_lt, Int32.toInt_zero, counted]
  split
  · rename_i outside
    refine ⟨nofun, ?_⟩
    rintro ⟨part, -, stands⟩
    have bounds := stands.bounds
    omega
  · rename_i inside
    have bounds : 0 ≤ first.toInt ∧ first.toInt ≤ last.toInt ∧ last.toInt ≤ text.length := by omega
    have stands : Part text first.toInt last.toInt
        (StringMembers.slice text first.toInt.toNat last.toInt.toNat) := by
      refine part_of_characters bounds ?_
      rw [StringMembers.slice_eq (by omega), String.toList_ofList]
    constructor
    · rintro ⟨⟩
      exact ⟨_, rfl, stands⟩
    · rintro ⟨part, rfl, also⟩
      rw [stands.unique also]

section Answers
variable {objects : Objects} {text : String} {result : Value}

/-- The part between two positions. -/
theorem between_ok_iff {first last : Int32} :
    call objects (.string text) "substring" [.int first, .int last] = .ok result ↔
      ∃ part, result = .string part ∧ Part text first.toInt last.toInt part :=
  (string_call_ok_iff rfl rfl rfl (by simp)).trans charRange_ok_iff

/-- The part behind a position, which ends with the text or at the greatest position. -/
theorem behind_ok_iff {first : Int32} :
    call objects (.string text) "substring" [.int first] = .ok result ↔
      ∃ part, result = .string part ∧ Part text first.toInt (min text.length greatestInt) part := by
  rw [← toInt_charCount]
  exact (string_call_ok_iff rfl rfl rfl (by simp)).trans charRange_ok_iff

end Answers

/-- The part of a text behind a position is the whole rest of it exactly if the text
has no more characters than the greatest int says. -/
theorem reaches_end_iff {text part : String} {first : Int}
    (stands : Part text first (min text.length greatestInt) part) :
    Part text first text.length part ↔ (text.length : Int) ≤ greatestInt := by
  constructor
  · intro whole
    obtain ⟨before, after, -, start, stop⟩ := stands
    obtain ⟨before', after', -, start', stop'⟩ := whole
    omega
  · intro fits
    rwa [Int.min_eq_left fits] at stands

/-- A string gives the part of its text behind a position up to its end or to the
greatest int, whichever comes first. So the part is the whole rest, and makes the
text again with the part before it, exactly for the texts that have no more
characters than an int can count; of a longer text the end is left out. -/
theorem substring_ends_at_greatest_int (objects : Objects) (text : String) :
    (∀ (first : Int32) result,
      call objects (.string text) "substring" [.int first] = .ok result ↔
        ∃ part, result = .string part ∧
          Part text first.toInt (min text.length greatestInt) part) ∧
    (∀ (first : Int32) rest,
      call objects (.string text) "substring" [.int first] = .ok (.string rest) →
        (Part text first.toInt text.length rest ↔ (text.length : Int) ≤ greatestInt)) ∧
    ∀ (cut : Int32) front rest,
      call objects (.string text) "substring" [.int 0, .int cut] = .ok (.string front) →
        call objects (.string text) "substring" [.int cut] = .ok (.string rest) →
          (front ++ rest = text ↔ (text.length : Int) ≤ greatestInt) := by
  refine ⟨fun first result => behind_ok_iff, fun first rest answered => ?_,
    fun cut front rest before behind => ?_⟩
  · obtain ⟨part, ⟨⟩, stands⟩ := behind_ok_iff.mp answered
    exact reaches_end_iff stands
  · obtain ⟨part, ⟨⟩, stands⟩ := between_ok_iff.mp before
    obtain ⟨part', ⟨⟩, stands'⟩ := behind_ok_iff.mp behind
    have joined : Part text 0 (min text.length greatestInt) (front ++ rest) := stands.join stands'
    rw [← part_whole_iff]
    exact reaches_end_iff joined

/-- A word is cut in two, which make the word again. -/
theorem cut_word_is_whole :
    let answer (args : List Value) := call Objects.empty (.string "naïve") "substring" args
    answer [.int 0, .int 2] = .ok (.string "na") ∧ answer [.int 2] = .ok (.string "ïve") ∧
      Part "naïve" 2 5 "ïve" ∧ "na" ++ "ïve" = "naïve" := by
  intro answer
  have before : answer [.int 0, .int 2] = .ok (.string "na") :=
    between_ok_iff.mpr ⟨"na", rfl, "", "ïve", by decide, by decide, by decide⟩
  have behind : answer [.int 2] = .ok (.string "ïve") :=
    behind_ok_iff.mpr ⟨"ïve", rfl, "na", "", by decide, by decide, by decide⟩
  obtain ⟨-, reaches, joins⟩ := substring_ends_at_greatest_int Objects.empty "naïve"
  exact ⟨before, behind, (reaches 2 "ïve" behind).mpr (by decide),
    (joins 2 "na" "ïve" before behind).mpr (by decide)⟩

/-- A text with one character more than an int can count. -/
theorem one_more_is_left_out {objects : Objects} {front last : String}
    (counted : (front.length : Int) = greatestInt) (single : last.length = 1) :
    call objects (.string (front ++ last)) "substring" [.int Int32.maxValue] = .ok (.string "") ∧
      Part (front ++ last) Int32.maxValue.toInt (front ++ last).length last ∧
      ¬ Part (front ++ last) Int32.maxValue.toInt (front ++ last).length "" := by
  have greatest : Int32.maxValue.toInt = greatestInt := by decide
  have empty : ("" : String).length = 0 := rfl
  have length : (front ++ last).length = front.length + 1 := by rw [String.length_append, single]
  refine ⟨behind_ok_iff.mpr ⟨"", rfl, front, last, ?_, ?_, ?_⟩,
    ⟨front, "", String.append_empty.symm, counted.trans greatest.symm, by omega⟩, ?_⟩
  · rw [String.append_empty]
  · exact counted.trans greatest.symm
  · omega
  · rintro ⟨before, after, -, start, stop⟩
    omega

/-- The last of 2147483648 letters stands at a position that an int can name, and the
part behind this position is answered without it. -/
theorem last_letter_is_left_out :
    let text := String.ofList (List.replicate 2147483647 'a') ++ "a"
    call Objects.empty (.string text) "substring" [.int Int32.maxValue] = .ok (.string "") ∧
      Part text Int32.maxValue.toInt text.length "a" ∧
      ¬ Part text Int32.maxValue.toInt text.length "" := by
  have counted : ((String.ofList (List.replicate 2147483647 'a')).length : Int) = greatestInt := by
    rw [String.length_ofList, List.length_replicate]
    rfl
  exact one_more_is_left_out counted rfl

end ValuePath.TextParts
