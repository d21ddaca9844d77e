import ValuePath.Proofs.TextParts
import ValuePath.Proofs.TextSearch

/-! Positions in a text as its methods see them. All of them count characters from the
start, whatever the characters are: those that cut, those that look at one character
and those that search agree on what stands where. -/
namespace ValuePath.TextPositions
open MemberCalls TextParts TextSearch

/-- A needle stands in a text from this position on. -/
def StandsAt (text needle : String) (position : Int) : Prop :=
  Part text position (position + needle.length) needle

/-- The position of a needle is the least one at which it stands, and -1 exactly if the
text does not contain it, so that it stands nowhere. -/
structure Located (text needle : String) (position : Int32) (contained : Bool) : Prop where
  missing : position = -1 ↔ contained = false
  somewhere : contained = true ↔ ∃ start, StandsAt text needle start
  least : contained = true → StandsAt text needle position.toInt ∧
    ∀ start, StandsAt text needle start → position.toInt ≤ start

/-- What a string answers about positions in its text is consistent. -/
structure Consistent (objects : Objects) (text needle : String) : Prop where
  length : ∃ count : Int32,
    call objects (.string text) "length" [] = .ok (.int count) ∧ count.toInt = text.length
  /-- A part is given exactly if its bounds are in order and within the text. -/
  bounded : ∀ first last : Int32,
    (∃ result, call objects (.string text) "substring" [.int first, .int last] = .ok result) ↔
      0 ≤ first.toInt ∧ first.toInt ≤ last.toInt ∧ last.toInt ≤ text.length
  between : ∀ (first last : Int32) result,
    call objects (.string text) "substring" [.int first, .int last] = .ok result →
      ∃ part, result = .string part ∧ Part text first.toInt last.toInt part
  /-- A character is given exactly if its position is within the text. -/
  within : ∀ position : Int32,
    (∃ result, call objects (.string text) "charAt" [.int position] = .ok result) ↔
      0 ≤ position.toInt ∧ position.toInt < text.length
  /-- It is the only one in the part that ends behind it. -/
  single : ∀ (position : Int32) result,
    call objects (.string text) "charAt" [.int position] = .ok result →
      ∃ c, result = .char c ∧
        call objects (.string text) "substring" [.int position, .int (position + 1)] =
          .ok (.string (String.singleton c))
  search : ∃ (position : Int32) (contained : Bool),
    call objects (.string text) "indexOf" [.string needle] = .ok (.int position) ∧
    call objects (.string text) "contains" [.string needle] = .ok (.boolean contained) ∧
    Located text needle position contained
  start : ∃ starts : Bool,
    call objects (.string text) "startsWith" [.string needle] = .ok (.boolean starts) ∧
    (starts = true ↔ call objects (.string text) "indexOf" [.string needle] = .ok (.int 0))
  stop : ∃ stops : Bool,
    call objects (.string text) "endsWith" [.string needle] = .ok (.boolean stops) ∧
    (stops = true ↔ needle.length ≤ text.length ∧
      call objects (.string text) "substring"
        [.int (Int32.ofNat (text.length - needle.length))] = .ok (.string needle))

/-! ## Needles in a text -/

section Needles
variable {text needle : String} {position : Nat}

theorem standsAt_iff (inside : position ≤ text.length) :
    StandsAt text needle position ↔ needle.toList <+: text.toList.drop position := by
  have counted : ((position : Int) + needle.length).toNat - (position : Int).toNat =
      needle.toList.length := by
    rw [String.length_toList]
    omega
  rw [StandsAt, part_iff, counted, List.prefix_iff_eq_take, Int.toNat_natCast]
  refine ⟨fun stands => stands.2, fun here => ⟨⟨by omega, by omega, ?_⟩, here⟩⟩
  have taken := congrArg List.length here
  simp only [List.length_take, List.length_drop, String.length_toList] at taken
  omega

theorem StandsAt.bounds {start : Int} (stands : StandsAt text needle start) :
    ∃ position : Nat, start = position ∧ position ≤ text.length := by
  obtain ⟨before, after, split, counted, stop⟩ := stands
  refine ⟨before.length, counted.symm, ?_⟩
  rw [split, String.length_append, String.length_append]
  omega

/-- A needle stands somewhere exactly if the text contains it. -/
theorem stands_somewhere_iff :
    (∃ start, StandsAt text needle start) ↔ needle.toList <:+: text.toList := by
  constructor
  · rintro ⟨start, before, after, split, -⟩
    refine ⟨before.toList, after.toList, ?_⟩
    rw [split, String.toList_append, String.toList_append]
  · rintro ⟨before, after, split⟩
    refine ⟨(String.ofList before).length, String.ofList before, String.ofList after, ?_, rfl, rfl⟩
    rw [← String.toList_inj, ← split]
    simp only [String.toList_append, String.toList_ofList]

/-- The first match stands at the least position. -/
theorem least_of_firstMatch (first : FirstMatch needle.toList text.toList position) :
    StandsAt text needle position ∧ ∀ start, StandsAt text needle start → (position : Int) ≤ start := by
  have inside : position ≤ text.length := by
    have within := first.inside
    simp only [String.length_toList] at within
    omega
  refine ⟨(standsAt_iff inside).mpr first.here, fun start stands => ?_⟩
  obtain ⟨other, rfl, within⟩ := stands.bounds
  refine Int.ofNat_le.mpr (Nat.le_of_not_lt fun less => ?_)
  exact first.earlier other less ((standsAt_iff within).mp stands)

end Needles

/-! ## Answers -/

/-- The part of one character is this character. -/
theorem part_single_iff {text : String} {position : Int} {c : Char} :
    Part text position (position + 1) (String.singleton c) ↔
      0 ≤ position ∧ text.toList[position.toNat]? = some c := by
  constructor
  · intro stands
    have bounds := stands.bounds
    have one : (position + 1).toNat - position.toNat = 1 := by omega
    have here := stands.characters
    rw [one, List.take_one, List.head?_drop, String.toList_singleton] at here
    refine ⟨bounds.1, ?_⟩
    cases found : text.toList[position.toNat]? with
    | none => simp [found] at here
    | some other => simpa [found, eq_comm] using here
  · rintro ⟨positive, found⟩
    have inside := (List.getElem?_eq_some_iff.mp found).1
    have one : (position + 1).toNat - position.toNat = 1 := by omega
    rw [String.length_toList] at inside
    refine part_of_characters (by omega) ?_
    rw [one, List.take_one, List.head?_drop, found, String.toList_singleton, Option.toList_some]

theorem charAt_ok_iff {text : String} {position : Int32} {result : Value} :
    StringMembers.charAt text position = .ok result ↔ ∃ c, result = .char c ∧
      Part text position.toInt (position.toInt + 1) (String.singleton c) := by
  simp only [part_single_iff, ← positional_iff]
  rw [StringMembers.charAt]
  cases (if position < 0 then none else text.toList[position.toInt.toNat]?) with
  | none => simp
  | some c => simp [eq_comm]

section Answers
variable {objects : Objects} {text needle : String} {result : Value}

theorem length_ok_iff : call objects (.string text) "length" [] = .ok result ↔
    intOfCount text.length = .ok result :=
  string_call_ok_iff rfl rfl rfl (by simp)

theorem charAt_answers_iff {position : Int32} :
    call objects (.string text) "charAt" [.int position] = .ok result ↔ ∃ c, result = .char c ∧
      Part text position.toInt (position.toInt + 1) (String.singleton c) :=
  (string_call_ok_iff rfl rfl rfl (by simp)).trans charAt_ok_iff

theorem indexOf_ok_iff : call objects (.string text) "indexOf" [.string needle] = .ok result ↔
    StringMembers.indexOf text.toList needle.toList = .ok result :=
  string_call_ok_iff rfl rfl rfl (by simp)

theorem contains_answers : call objects (.string text) "contains" [.string needle] =
    .ok (.boolean (Text.contains needle.toList text.toList)) :=
  (string_call_ok_iff rfl rfl rfl (by simp)).mpr rfl

theorem startsWith_answers : call objects (.string text) "startsWith" [.string needle] =
    .ok (.boolean (needle.toList.isPrefixOf text.toList)) :=
  (string_call_ok_iff rfl rfl rfl (by simp)).mpr rfl

theorem endsWith_answers : call objects (.string text) "endsWith" [.string needle] =
    .ok (.boolean (needle.toList.isSuffixOf text.toList)) :=
  (string_call_ok_iff rfl rfl rfl (by simp)).mpr rfl

end Answers

section Consistency
variable {objects : Objects} {text needle : String}

/-- An int can name the first match in a text whose characters an int can count. -/
theorem firstMatch_named (fits : (text.length : Int) ≤ greatestInt) {start : Nat}
    (first : FirstMatch needle.toList text.toList start) :
    ∃ position : Int32, intOfCount start = .ok (.int position) ∧ position.toInt = start := by
  have inside := first.inside
  simp only [String.length_toList] at inside
  exact intOfCount_ok (by omega)

/-- The position behind a character of such a text is an int as well. -/
theorem single_consistent (fits : (text.length : Int) ≤ greatestInt) {position : Int32}
    {result : Value} (answered : call objects (.string text) "charAt" [.int position] = .ok result) :
    ∃ c, result = .char c ∧
      call objects (.string text) "substring" [.int position, .int (position + 1)] =
        .ok (.string (String.singleton c)) := by
  obtain ⟨c, rfl, stands⟩ := charAt_answers_iff.mp answered
  have bounds := stands.bounds
  have next : (position + 1).toInt = position.toInt + 1 := by
    rw [greatestInt] at fits
    rw [Int32.toInt_add, Int32.toInt_one]
    exact Int.bmod_eq_of_le (by omega) (by omega)
  exact ⟨c, rfl, between_ok_iff.mpr ⟨_, rfl, next ▸ stands⟩⟩

theorem search_consistent (fits : (text.length : Int) ≤ greatestInt) :
    ∃ (position : Int32) (contained : Bool),
      call objects (.string text) "indexOf" [.string needle] = .ok (.int position) ∧
      call objects (.string text) "contains" [.string needle] = .ok (.boolean contained) ∧
      Located text needle position contained := by
  cases found : Text.find? needle.toList text.toList with
  | none =>
    have nowhere := find_eq_none_iff.mp found
    have absent : Text.contains needle.toList text.toList = false := by
      rw [Text.contains, found]
      rfl
    refine ⟨-1, false, indexOf_ok_iff.mpr ?_, absent ▸ contains_answers, ?_, ?_,
      fun contained => absurd contained Bool.false_ne_true⟩
    · rw [StringMembers.indexOf, found]
    · exact ⟨fun _ => rfl, fun _ => rfl⟩
    · rw [stands_somewhere_iff]
      exact ⟨fun contained => absurd contained Bool.false_ne_true,
        fun contained => absurd contained nowhere⟩
  | some start =>
    have first := find_eq_some_iff.mp found
    have present : Text.contains needle.toList text.toList = true :=
      contains_iff.mpr first.contained
    obtain ⟨position, named, counted⟩ := firstMatch_named fits first
    refine ⟨position, true, indexOf_ok_iff.mpr ?_, present ▸ contains_answers, ?_, ?_, fun _ => ?_⟩
    · rw [StringMembers.indexOf, found]
      exact named
    · refine ⟨?_, fun absent => absurd absent.symm Bool.false_ne_true⟩
      rintro rfl
      have least : (-1 : Int32).toInt = -1 := by decide
      omega
    · exact ⟨fun _ => stands_somewhere_iff.mpr first.contained, fun _ => rfl⟩
    · rw [counted]
      exact least_of_firstMatch first

theorem start_consistent (fits : (text.length : Int) ≤ greatestInt) :
    needle.toList.isPrefixOf text.toList = true ↔
      call objects (.string text) "indexOf" [.string needle] = .ok (.int 0) := by
  rw [indexOf_ok_iff, StringMembers.indexOf, List.isPrefixOf_iff_prefix, ← firstMatch_zero_iff,
    ← find_eq_some_iff]
  cases found : Text.find? needle.toList text.toList with
  | none => simp
  | some start =>
    obtain ⟨position, named, counted⟩ := firstMatch_named fits (find_eq_some_iff.mp found)
    simp only [named, Except.ok.injEq, Value.int.injEq, Option.some.injEq,
      ← Int32.toInt_inj, counted, Int32.toInt_zero]
    omega

theorem stop_consistent (fits : (text.length : Int) ≤ greatestInt) :
    needle.toList.isSuffixOf text.toList = true ↔ needle.length ≤ text.length ∧
      call objects (.string text) "substring"
        [.int (Int32.ofNat (text.length - needle.length))] = .ok (.string needle) := by
  have small : text.length - needle.length < 2 ^ 31 := by rw [greatestInt] at fits; omega
  rw [List.isSuffixOf_iff_suffix, behind_ok_iff, Int32.toInt_ofNat_of_lt small,
    Int.min_eq_left fits]
  constructor
  · rintro ⟨before, split⟩
    have joined : text = String.ofList before ++ needle ++ "" := by
      rw [← String.toList_inj, ← split]
      simp
    have counted : text.length = (String.ofList before).length + needle.length := by
      rw [joined]
      simp
    exact ⟨by omega, needle, rfl, String.ofList before, "", joined, by omega, by omega⟩
  · rintro ⟨-, part, ⟨⟩, before, after, split, counted, stop⟩
    have length := congrArg String.length split
    rw [String.length_append, String.length_append] at length
    have nothing : after = "" := String.length_eq_zero_iff.mp (by omega)
    exact ⟨before.toList, by rw [split, nothing]; simp⟩

end Consistency

/-- A string whose characters an int can count answers consistently about positions in
its text. Its length is their number; a part is given exactly if its bounds are in
order and within the text, and a character exactly if it stands within the text; a
needle is found at the least position at which it stands, and not found exactly if it
is not contained; the text starts with what stands at 0, and ends with what is its
part from there on. -/
theorem positions_are_consistent (objects : Objects) (text needle : String)
    (fits : (text.length : Int) ≤ greatestInt) : Consistent objects text needle where
  length := by
    obtain ⟨count, named, counted⟩ := intOfCount_ok fits
    exact ⟨count, length_ok_iff.mpr named, counted⟩
  bounded first last := by
    constructor
    · rintro ⟨result, answered⟩
      obtain ⟨part, -, stands⟩ := between_ok_iff.mp answered
      exact stands.bounds
    · rintro ⟨positive, ordered, inside⟩
      obtain ⟨part, stands⟩ := part_exists positive ordered inside
      exact ⟨.string part, between_ok_iff.mpr ⟨part, rfl, stands⟩⟩
  between first last result := between_ok_iff.mp
  within position := by
    constructor
    · rintro ⟨result, answered⟩
      obtain ⟨c, -, stands⟩ := charAt_answers_iff.mp answered
      have bounds := stands.bounds
      omega
    · rintro ⟨positive, inside⟩
      have here : position.toInt.toNat < text.toList.length := by rw [String.length_toList]; omega
      have stands := part_single_iff.mpr ⟨positive, List.getElem?_eq_getElem here⟩
      exact ⟨_, charAt_answers_iff.mpr ⟨_, rfl, stands⟩⟩
  single position result := single_consistent fits
  search := search_consistent fits
  start := ⟨_, startsWith_answers, start_consistent fits⟩
  stop := ⟨_, endsWith_answers, stop_consistent fits⟩

/-- Characters of one to four bytes, with a needle that stands twice among them. -/
theorem wide_characters_are_consistent :
    (("añ€😀ñ€".length : Nat) : Int) ≤ greatestInt ∧ Consistent Objects.empty "añ€😀ñ€" "ñ€" :=
  ⟨by decide, positions_are_consistent Objects.empty "añ€😀ñ€" "ñ€" (by decide)⟩

end ValuePath.TextPositions
