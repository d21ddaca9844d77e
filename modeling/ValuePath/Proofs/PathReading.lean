import Mathlib.Data.List.TakeWhile
import Mathlib.Tactic.Tauto
import ValuePath.Path.Parser
import ValuePath.Proofs.PathGrammar

/-! Reading accepts exactly the grammar. Every reader is first shown to take
what the grammar writes, then to take nothing else; the segments of a token
follow from both. -/
namespace ValuePath.PathReading
open DecimalText (Digits)
open Numeric (isDecimalDigit decimalValue)
open PathGrammar

variable {segment : Segment}

/-- A run of characters of one kind ends at the first character of another. -/
private theorem take_run {kind : Char → Bool} {run rest : List Char} {stop : Char}
    (inside : ∀ c ∈ run, kind c = true) (boundary : kind stop = false) :
    (run ++ stop :: rest).takeWhile kind = run := by
  rw [List.takeWhile_append_of_pos inside]
  simp [boundary]

private theorem drop_run {kind : Char → Bool} {run rest : List Char} {stop : Char}
    (inside : ∀ c ∈ run, kind c = true) (boundary : kind stop = false) :
    (run ++ stop :: rest).dropWhile kind = stop :: rest := by
  rw [List.dropWhile_append_of_pos inside]
  simp [boundary]

private theorem kind_of_takeWhile {kind : Char → Bool} {text : List Char} :
    ∀ c ∈ text.takeWhile kind, kind c = true :=
  List.all_eq_true.mp List.all_takeWhile

private theorem all_digits (digits : Digits text) : ∀ c ∈ text, isDecimalDigit c = true :=
  fun c member => (DecimalText.isDecimalDigit_iff c).mpr (digits c member)

private theorem digits_of_takeWhile (text : List Char) : Digits (text.takeWhile isDecimalDigit) :=
  fun c member => (DecimalText.isDecimalDigit_iff c).mp (kind_of_takeWhile c member)

/-- A text is its leading run and the character that the run stops at. -/
private theorem run_then_stop {kind : Char → Bool} {text rest : List Char} {stop : Char}
    (found : text.dropWhile kind = stop :: rest) :
    text.takeWhile kind ++ stop :: rest = text := by
  rw [← found, List.takeWhile_append_dropWhile]

/-! ## Index groups -/

/-- The position that the reader gives to a group. -/
def positionOf (group : IndexGroup) : Option Int64 :=
  Segment.indexPosition group.negative group.digits

theorem means_positionOf (group : IndexGroup) : group.Means (positionOf group) := by
  intro n
  have value : decimalValue group.digits = group.magnitude :=
    DecimalText.decimalValue_of_digits group.only_digits
  have read : positionOf group =
      if group.digits = [] ∨ 2 ^ 63 ≤ group.magnitude then none
      else some (Int64.ofInt group.signed) := by
    simp only [positionOf, Segment.indexPosition, value, List.isEmpty_iff, IndexGroup.signed,
      Nat.pow_eq]
  rw [read]
  by_cases unusable : group.digits = [] ∨ 2 ^ 63 ≤ group.magnitude
  · simp only [unusable, ↓reduceIte, reduceCtorEq, false_iff]
    rintro ⟨some_digits, small, -⟩
    rcases unusable with none | large
    · exact some_digits none
    · omega
  · have bounds : -2 ^ 63 ≤ group.signed ∧ group.signed < 2 ^ 63 := by
      unfold IndexGroup.signed
      split <;> omega
    have exact_number := Int64.toInt_ofInt_of_le bounds.1 bounds.2
    simp only [unusable, ↓reduceIte, Option.some.injEq]
    constructor
    · rintro rfl
      exact ⟨fun none => unusable (.inl none), by omega, exact_number⟩
    · rintro ⟨-, -, number⟩
      exact Int64.toInt.inj (exact_number.trans number.symm)

theorem means_iff {group : IndexGroup} {found : Option Int64} :
    group.Means found ↔ found = positionOf group := by
  constructor
  · intro means
    apply Option.ext
    intro n
    exact (means n).trans (means_positionOf group n).symm
  · rintro rfl
    exact means_positionOf group

theorem all_mean_iff {groups : List IndexGroup} {found : List (Option Int64)} :
    List.Forall₂ IndexGroup.Means groups found ↔ found = groups.map positionOf := by
  constructor
  · intro means
    induction means with
    | nil => rfl
    | cons head tail ih => rw [means_iff.mp head, ih, List.map_cons]
  · rintro rfl
    induction groups with
    | nil => exact .nil
    | cons group others ih => exact .cons (means_positionOf group) ih

private theorem readSign_group (group : IndexGroup) (rest : List Char) :
    Segment.readSign (group.sign ++ (group.digits ++ ']' :: rest)) =
      (group.negative, group.digits ++ ']' :: rest) := by
  cases negative : group.negative with
  | true => simp [IndexGroup.sign, negative, Segment.readSign]
  | false =>
    simp only [IndexGroup.sign, negative, Bool.false_eq_true, ↓reduceIte, List.nil_append]
    cases digits : group.digits with
    | nil => rfl
    | cons c more =>
      have first := group.only_digits c (by simp [digits])
      unfold Segment.readSign
      split
      · rename_i heading
        cases heading
        exact absurd first (by decide)
      · rfl

private theorem text_of_readSign (text : List Char) :
    (if (Segment.readSign text).1 then ['-'] else []) ++ (Segment.readSign text).2 = text := by
  unfold Segment.readSign
  split <;> rfl

/-- The reader takes a whole index group off the front of a text. -/
theorem readIndex_group (group : IndexGroup) (rest : List Char) :
    Segment.readIndex? (group.text ++ rest) = some (positionOf group, rest) := by
  have inside := all_digits group.only_digits
  have bracket : isDecimalDigit ']' = false := rfl
  have shape : group.text ++ rest = '[' :: (group.sign ++ (group.digits ++ ']' :: rest)) := by
    simp [IndexGroup.text]
  simp only [shape, Segment.readIndex?, readSign_group, drop_run inside bracket,
    take_run inside bracket, positionOf]

/-- What the reader takes off the front is an index group. -/
theorem group_of_readIndex (read : Segment.readIndex? text = some (position, rest)) :
    ∃ group : IndexGroup, text = group.text ++ rest ∧ position = positionOf group := by
  unfold Segment.readIndex? at read
  split at read
  · rename_i body
    simp only at read
    split at read
    · rename_i tail found
      cases read
      refine ⟨⟨(Segment.readSign body).1, _, digits_of_takeWhile _⟩, ?_, rfl⟩
      have inner := run_then_stop found
      have outer := text_of_readSign body
      simp [IndexGroup.text, IndexGroup.sign, inner, outer]
    · cases read
  · cases read

/-- Index groups up to the end are read one after the other. -/
private theorem readIndices_step (text : List Char) : Segment.readIndices? text =
    match Segment.readIndex? text with
    | none => none
    | some (position, []) => some [position]
    | some (position, next :: rest) =>
      (Segment.readIndices? (next :: rest)).map (position :: ·) := by
  rw [Segment.readIndices?]
  split <;> simp_all

theorem readIndices_groups (groups : List IndexGroup) (some_groups : groups ≠ []) :
    Segment.readIndices? (groups.flatMap IndexGroup.text) =
      some (groups.map positionOf) := by
  induction groups with
  | nil => exact absurd rfl some_groups
  | cons group others ih =>
    rw [readIndices_step, List.flatMap_cons, readIndex_group]
    cases others with
    | nil => rfl
    | cons next more =>
      have read := ih (List.cons_ne_nil _ _)
      have shape : (next :: more).flatMap IndexGroup.text =
        '[' :: (next.sign ++ (next.digits ++ [']']) ++ more.flatMap IndexGroup.text) := rfl
      rw [shape] at read ⊢
      simp only [read, Option.map_some, List.map_cons]

theorem groups_of_readIndices (read : Segment.readIndices? text = some found) :
    ∃ groups : List IndexGroup, groups ≠ [] ∧ text = groups.flatMap IndexGroup.text ∧
      found = groups.map positionOf := by
  induction text using Segment.readIndices?.induct generalizing found with
  | case1 text missing =>
    rw [readIndices_step, missing] at read
    cases read
  | case2 text position last =>
    rw [readIndices_step, last] at read
    cases read
    obtain ⟨group, rfl, rfl⟩ := group_of_readIndex last
    exact ⟨[group], by simp, by simp, by simp⟩
  | case3 text position next rest first ih =>
    rw [readIndices_step, first] at read
    obtain ⟨others, more, rfl⟩ := Option.map_eq_some_iff.mp read
    obtain ⟨group, rfl, rfl⟩ := group_of_readIndex first
    obtain ⟨groups, -, shape, rfl⟩ := ih more
    exact ⟨group :: groups, by simp, by simp [shape], by simp⟩

/-! ## Calls -/

private theorem isNameStart_iff (c : Char) : isNameStart c = true ↔ NameStart c := by
  simp only [isNameStart, isAsciiLetter, NameStart, Bool.or_eq_true, Bool.and_eq_true,
    decide_eq_true_eq, beq_iff_eq]
  tauto

private theorem isNamePart_iff (c : Char) : isNamePart c = true ↔ NamePart c := by
  simp only [isNamePart, isAsciiLetter, NamePart, NameStart, Bool.or_eq_true, Bool.and_eq_true,
    decide_eq_true_eq, beq_iff_eq, DecimalText.isDecimalDigit_iff]
  tauto

/-- The slot that the reader gives to a written slot. -/
def slotOf (slot : Slot) : UInt64 := Segment.slotNumber slot.digits

theorem toNat_slotOf (slot : Slot) : (slotOf slot).toNat = slot.number := by
  have small : slot.number < 2 ^ 64 := by
    unfold Slot.number
    omega
  rw [slotOf, Segment.slotNumber, DecimalText.decimalValue_of_digits slot.only_digits]
  exact Nat.mod_eq_of_lt small

/-- After an opening brace stand digits and a closing brace; a comma that
follows is passed over. -/
private theorem readSlots_open (body : List Char) : Segment.readSlots? ('{' :: body) =
    match body.dropWhile isDecimalDigit with
    | '}' :: rest =>
      if (body.takeWhile isDecimalDigit).isEmpty then none
      else (Segment.readSlots? (if rest.head? = some ',' then rest.tail else rest)).map
        (Segment.slotNumber (body.takeWhile isDecimalDigit) :: ·)
    | _ => none := by
  rw [Segment.readSlots?.eq_def]
  simp only
  split <;> simp_all

theorem readSlots_step (slot : Slot) (rest : List Char) (ended : rest.head? ≠ some ',') :
    Segment.readSlots? (slot.text ++ rest) =
      (Segment.readSlots? rest).map (slotOf slot :: ·) := by
  have inside := all_digits slot.only_digits
  have brace : isDecimalDigit '}' = false := rfl
  have shape : slot.text ++ rest =
      '{' :: (slot.digits ++ '}' :: ((if slot.comma then [','] else []) ++ rest)) := by
    simp [Slot.text]
  rw [shape, readSlots_open, take_run inside brace, drop_run inside brace]
  cases comma : slot.comma with
  | true => simp [slot.some_digits, slotOf]
  | false => simp [slot.some_digits, slotOf, ended]

theorem readSlots_slots (slots : List Slot) :
    Segment.readSlots? (slots.flatMap Slot.text ++ [')']) = some (slots.map slotOf) := by
  induction slots with
  | nil => rw [Segment.readSlots?.eq_def]; rfl
  | cons slot others ih =>
    have ended : (others.flatMap Slot.text ++ [')']).head? ≠ some ',' := by
      cases others <;> simp [Slot.text]
    rw [List.flatMap_cons, List.append_assoc, readSlots_step slot _ ended, ih]
    rfl

theorem slots_of_readSlots (read : Segment.readSlots? text = some found) :
    ∃ slots : List Slot, text = slots.flatMap Slot.text ++ [')'] ∧
      found = slots.map slotOf := by
  fun_induction Segment.readSlots? text generalizing found with
  | case1 =>
    cases read
    exact ⟨[], rfl, rfl⟩
  | case2 => cases read
  | case3 body digits rest cut filled =>
    rename_i ih
    obtain ⟨others, more, rfl⟩ := Option.map_eq_some_iff.mp read
    obtain ⟨slots, after, rfl⟩ := ih more
    have whole := run_then_stop cut
    let slot (comma : Bool) : Slot :=
      ⟨digits, by simpa using filled, digits_of_takeWhile body, comma⟩
    by_cases comma : rest.head? = some ','
    · refine ⟨slot true :: slots, ?_, rfl⟩
      obtain ⟨tail, rfl⟩ := List.head?_eq_some_iff.mp comma
      rw [dif_pos comma, List.tail_cons] at after
      rw [← whole, after]
      simp [Slot.text, slot, digits]
    · refine ⟨slot false :: slots, ?_, rfl⟩
      rw [dif_neg comma] at after
      rw [← whole, after]
      simp [Slot.text, slot, digits]
  | case4 => cases read
  | case5 => cases read

/-- A text is read as a call exactly if it is written as one. -/
theorem readMethod_iff : Segment.readMethod? text = some segment ↔
    ∃ call : Call, text = call.text ∧
      segment = .method (String.ofList call.name) (call.slots.map slotOf) := by
  constructor
  · intro read
    unfold Segment.readMethod? at read
    split at read
    · rename_i first more
      split at read
      · rename_i start
        split at read
        · rename_i body cut
          obtain ⟨found, inside, rfl⟩ := Option.map_eq_some_iff.mp read
          obtain ⟨slots, rfl, rfl⟩ := slots_of_readSlots inside
          have identifier : Identifier (first :: more.takeWhile isNamePart) :=
            ⟨(isNameStart_iff first).mp start, fun c member =>
              (isNamePart_iff c).mp (kind_of_takeWhile c member)⟩
          refine ⟨⟨_, identifier, slots⟩, ?_, rfl⟩
          rw [Call.text, List.cons_append, run_then_stop cut]
        · cases read
      · cases read
    · cases read
  · rintro ⟨⟨name, identifier, slots⟩, rfl, rfl⟩
    cases name with
    | nil => exact identifier.elim
    | cons first more =>
      have start := (isNameStart_iff first).mpr identifier.1
      have inside : ∀ c ∈ more, isNamePart c = true := fun c member =>
        (isNamePart_iff c).mpr (identifier.2 c member)
      have bracket : isNamePart '(' = false := rfl
      simp only [Call.text, List.cons_append, Segment.readMethod?, start, ↓reduceIte,
        drop_run inside bracket, take_run inside bracket, readSlots_slots, Option.map_some]

/-! ## Tokens -/

private theorem values_iff {slots : List Slot} {found : List UInt64} :
    found.map UInt64.toNat = slots.map Slot.number ↔ found = slots.map slotOf := by
  have numbers : slots.map Slot.number = (slots.map slotOf).map UInt64.toNat := by
    simp [toNat_slotOf]
  rw [numbers]
  exact (List.map_injective_iff.mpr fun _ _ same => UInt64.toNat_inj.mp same).eq_iff

theorem classified_iff : Classified text segment ↔
    segment = (Segment.readMethod? text).getD (.field (String.ofList text)) := by
  constructor
  · intro classified
    cases classified with
    | call call slots numbers =>
      rw [readMethod_iff.mpr ⟨call, rfl, rfl⟩, values_iff.mp numbers, Option.getD_some]
    | field other =>
      cases read : Segment.readMethod? text with
      | none => rfl
      | some segment =>
        obtain ⟨call, same, -⟩ := readMethod_iff.mp read
        exact absurd same (other call)
  · rintro rfl
    cases read : Segment.readMethod? text with
    | none =>
      apply Classified.field
      intro call same
      rw [readMethod_iff.mpr ⟨call, same, rfl⟩] at read
      cases read
    | some segment =>
      obtain ⟨call, rfl, rfl⟩ := readMethod_iff.mp read
      exact .call call _ (values_iff.mpr rfl)

private theorem classified_exists (text : List Char) : ∃ segment, Classified text segment :=
  ⟨_, classified_iff.mpr rfl⟩

theorem trim_eq_nil_iff (text : List Char) : Text.trim text = [] ↔ Text.isBlankText text = true := by
  simp only [Text.trim, Text.trimEnd, Text.isBlankText, List.reverse_eq_nil_iff,
    List.dropWhile_eq_nil_iff, List.mem_reverse, List.all_eq_true]
  constructor
  · intro trimmed c member
    rw [← List.takeWhile_append_dropWhile (p := Text.isBlank) (l := text)] at member
    rcases List.mem_append.mp member with leading | inner
    · exact kind_of_takeWhile c leading
    · exact trimmed c inner
  · intro blank c member
    exact blank c ((List.dropWhile_sublist _).subset member)

theorem splitIndices_suffixed (token : Suffixed) : Path.splitIndices? token.text =
    some (token.base, token.groups.map positionOf) := by
  obtain ⟨group, others, groups⟩ := List.exists_cons_of_ne_nil token.some_groups
  have inside : ∀ c ∈ token.base, (c != '[') = true := by
    intro c member
    have other : c ≠ '[' := fun same => token.plain_base.1 (same ▸ member)
    simpa using other
  have bracket : ('[' != '[') = false := rfl
  have shape : token.text = token.base ++ '[' ::
      (group.sign ++ (group.digits ++ [']']) ++ others.flatMap IndexGroup.text) := by
    rw [Suffixed.text, groups]
    rfl
  have read := readIndices_groups token.groups token.some_groups
  have suffix : token.groups.flatMap IndexGroup.text = '[' ::
      (group.sign ++ (group.digits ++ [']']) ++ others.flatMap IndexGroup.text) := by
    rw [groups]
    rfl
  rw [suffix] at read
  rw [Path.splitIndices?, shape, take_run inside bracket, drop_run inside bracket, read]
  simp [token.plain_base.2]

theorem suffixed_of_splitIndices (split : Path.splitIndices? text = some (base, found)) :
    ∃ token : Suffixed, text = token.text ∧ base = token.base ∧
      found = token.groups.map positionOf := by
  unfold Path.splitIndices? at split
  simp only at split
  split at split
  · cases split
  · rename_i plain
    obtain ⟨positions, read, same⟩ := Option.map_eq_some_iff.mp split
    cases same
    obtain ⟨groups, some_groups, suffix, rfl⟩ := groups_of_readIndices read
    have open_free : '[' ∉ text.takeWhile (· != '[') := fun member =>
      absurd (kind_of_takeWhile _ member) (by simp)
    refine ⟨⟨_, groups, ⟨open_free, by simpa using plain⟩, some_groups⟩, ?_, rfl, rfl⟩
    rw [Suffixed.text, ← suffix, List.takeWhile_append_dropWhile]

/-- A token with index groups holds a bracket, which no trimming removes. -/
private theorem filled_of_bracket (bracket : '[' ∈ text) : Text.isBlankText text = false := by
  apply Bool.eq_false_iff.mpr
  intro blank
  exact absurd (List.all_eq_true.mp blank _ bracket) (by decide)

theorem bracket_mem_suffixed (token : Suffixed) : '[' ∈ token.text := by
  obtain ⟨group, others, groups⟩ := List.exists_cons_of_ne_nil token.some_groups
  simp [Suffixed.text, groups, IndexGroup.text]

/-- A text that is no index group by itself is read as it is classified. -/
private theorem ofToken_classified (other : ∀ group : IndexGroup, text ≠ group.text)
    (classified : Classified text segment) : Segment.ofToken text = segment := by
  unfold Segment.ofToken
  split
  · rename_i read
    obtain ⟨group, same, -⟩ := group_of_readIndex read
    exact absurd (by simpa using same) (other group)
  · exact (classified_iff.mp classified).symm

private theorem ofToken_group (group : IndexGroup) :
    Segment.ofToken group.text = .index (positionOf group) := by
  have read := readIndex_group group []
  rw [List.append_nil] at read
  rw [Segment.ofToken, read]

theorem segmentReads_iff : SegmentReads text segment ↔ Segment.ofToken text = segment := by
  constructor
  · intro reads
    cases reads with
    | group group means => rw [ofToken_group, means_iff.mp means]
    | other other classified => exact ofToken_classified other classified
  · rintro rfl
    by_cases grouped : ∃ group : IndexGroup, text = group.text
    · obtain ⟨group, rfl⟩ := grouped
      rw [ofToken_group]
      exact .group group (means_positionOf group)
    · have other : ∀ group : IndexGroup, text ≠ group.text :=
        fun group same => grouped ⟨group, same⟩
      have classified := classified_iff.mpr (Eq.refl ((Segment.readMethod? text).getD _))
      rw [ofToken_classified other classified]
      exact .other other classified

/-- A single index group is a token with a blank base. -/
private theorem no_group_of_not_suffixed (other : ∀ token : Suffixed, text ≠ token.text)
    (group : IndexGroup) : text ≠ group.text := by
  intro same
  have shape : text = Suffixed.text ⟨[], [group], by simp, by simp⟩ := by
    simp [Suffixed.text, same]
  exact other _ shape

private theorem base_is_no_group (token : Suffixed) (group : IndexGroup) :
    token.base ≠ group.text :=
  fun same => token.plain_base.1 (by simp [same, IndexGroup.text])

private theorem blank_text_reads (blank : Text.isBlankText text = true) :
    Path.tokenSegments text = [] := by
  rw [Path.tokenSegments, if_pos blank]

private theorem suffixed_reads (token : Suffixed) : Path.tokenSegments token.text =
    (if Text.isBlankText token.base then [] else [Segment.ofToken token.base]) ++
      (token.groups.map positionOf).map .index := by
  have filled := filled_of_bracket (bracket_mem_suffixed token)
  simp only [Path.tokenSegments, filled, Bool.false_eq_true, ↓reduceIte, splitIndices_suffixed]

private theorem whole_reads (filled : Text.isBlankText text = false)
    (other : ∀ token : Suffixed, text ≠ token.text) :
    Path.tokenSegments text = [Segment.ofToken text] := by
  cases split : Path.splitIndices? text with
  | none => simp only [Path.tokenSegments, filled, Bool.false_eq_true, ↓reduceIte, split]
  | some parts =>
    obtain ⟨token, same, -⟩ := suffixed_of_splitIndices split
    exact absurd same (other token)

theorem tokenReads_iff : TokenReads text segments ↔ Path.tokenSegments text = segments := by
  constructor
  · intro reads
    cases reads with
    | blank blank => exact blank_text_reads ((trim_eq_nil_iff text).mp blank)
    | indexed token blank positions =>
      rw [suffixed_reads, if_pos ((trim_eq_nil_iff _).mp blank),
        all_mean_iff.mp positions, List.nil_append]
    | based token filled classified positions =>
      rw [suffixed_reads, if_neg (mt (trim_eq_nil_iff _).mpr filled),
        ofToken_classified (base_is_no_group token) classified,
        all_mean_iff.mp positions, List.singleton_append]
    | whole filled other classified =>
      have noGroup := no_group_of_not_suffixed other
      rw [whole_reads (Bool.eq_false_iff.mpr (mt (trim_eq_nil_iff _).mpr filled)) other,
        ofToken_classified noGroup classified]
  · rintro rfl
    by_cases blank : Text.isBlankText text = true
    · rw [blank_text_reads blank]
      exact .blank ((trim_eq_nil_iff text).mpr blank)
    · by_cases indexed : ∃ token : Suffixed, text = token.text
      · obtain ⟨token, rfl⟩ := indexed
        have positions := all_mean_iff.mpr (Eq.refl (token.groups.map _))
        rw [suffixed_reads]
        by_cases blankBase : Text.isBlankText token.base = true
        · rw [if_pos blankBase]
          exact .indexed token ((trim_eq_nil_iff _).mpr blankBase) positions
        · obtain ⟨segment, classified⟩ := classified_exists token.base
          rw [if_neg blankBase, ofToken_classified (base_is_no_group token) classified]
          exact .based token (mt (trim_eq_nil_iff _).mp blankBase) classified positions
      · have other : ∀ token : Suffixed, text ≠ token.text :=
          fun token same => indexed ⟨token, same⟩
        have noGroup := no_group_of_not_suffixed other
        obtain ⟨segment, classified⟩ := classified_exists text
        rw [whole_reads (Bool.eq_false_iff.mpr blank) other, ofToken_classified noGroup classified]
        exact .whole (mt (trim_eq_nil_iff _).mp blank) other classified

theorem reads_iff : Reads tokens segments ↔ (Path.ofTokens tokens).segments = segments := by
  constructor
  · intro reads
    induction reads with
    | nil => rfl
    | cons head tail ih =>
      rw [Path.ofTokens, List.flatMap_cons, tokenReads_iff.mp head]
      exact congrArg (_ ++ ·) ih
  · rintro rfl
    induction tokens with
    | nil => exact .nil
    | cons token others ih =>
      rw [Path.ofTokens, List.flatMap_cons]
      exact .cons (tokenReads_iff.mpr rfl) ih

/-! ## Texts with dots -/

private theorem dot_inside_piece (text : List Char) : ∀ piece ∈ text.splitOn '.', '.' ∉ piece := by
  induction text with
  | nil => simp
  | cons c rest ih =>
    rw [List.splitOn_cons_eq_if_modifyHead]
    split
    · simpa using ih
    · rename_i other
      obtain ⟨first, more, pieces⟩ := List.exists_cons_of_ne_nil (List.splitOn_ne_nil '.' rest)
      rw [pieces] at ih ⊢
      intro piece member
      rw [List.modifyHead_cons] at member
      rcases List.mem_cons.mp member with rfl | later
      · apply List.not_mem_cons_of_ne_of_not_mem
        · intro same
          simp [← same] at other
        · exact ih first List.mem_cons_self
      · exact ih piece (List.mem_cons_of_mem _ later)

theorem pieces_iff : Pieces text pieces ↔ pieces = text.splitOn '.' := by
  constructor
  · rintro ⟨filled, dots, rfl⟩
    exact (List.splitOn_intercalate '.' dots filled).symm
  · rintro rfl
    exact ⟨List.splitOn_ne_nil _ _, dot_inside_piece text, List.intercalate_splitOn '.'⟩

/-- Reading accepts exactly the grammar. Tokens give the segments that the
grammar gives them, in order; a token has at most one base with index groups;
every text is classified in one way; a text taken as one segment is a single
index group or what it is classified as; and a dotted text is read as the
tokens between its dots. -/
theorem reading_accepts_exactly_the_grammar :
    (∀ tokens segments, (Path.ofTokens tokens).segments = segments ↔ Reads tokens segments) ∧
    (∀ token other : Suffixed, token.text = other.text → token = other) ∧
    (∀ text, ∃! segment, Classified text segment) ∧
    (∀ text segment, Segment.ofToken text = segment ↔ SegmentReads text segment) ∧
    (∀ text : String, ∃ pieces, Pieces text.toList pieces ∧
      (∀ other, Pieces text.toList other → other = pieces) ∧
      Path.parse text = Path.ofTokens pieces) := by
  refine ⟨fun _ _ => reads_iff.symm, fun _ _ => suffixed_unique, ?_,
    fun _ _ => segmentReads_iff.symm, ?_⟩
  · intro text
    obtain ⟨segment, classified⟩ := classified_exists text
    exact ⟨segment, classified, fun other also =>
      (classified_iff.mp also).trans (classified_iff.mp classified).symm⟩
  · intro text
    exact ⟨_, pieces_iff.mpr rfl, fun other pieces => pieces_iff.mp pieces, rfl⟩

end ValuePath.PathReading
