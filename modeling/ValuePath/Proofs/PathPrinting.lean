import ValuePath.Proofs.PathReading

/-! Printing a path and reading it back. Text that is printed from segments
falls into runs, a segment and the index segments after it; every run is one
token. Such a token reads as its run, but for a field with a square bracket in
its name: the index groups after it are not split off. -/
namespace ValuePath.PathPrinting
open DecimalText (Digits)
open PathGrammar PathReading

variable {segment : Segment}

/-- A segment that by itself is written as it is read: a field that nothing
else is written like, a call with a proper name, an index with a magnitude. -/
def Readable : Segment → Prop
  | .field name => Text.trim name.toList ≠ [] ∧ '.' ∉ name.toList ∧
    (∀ call : Call, name.toList ≠ call.text) ∧ ∀ token : Suffixed, name.toList ≠ token.text
  | .method name _ => Identifier name.toList
  | .index position => position ≠ some Int64.minValue

/-- A field with a square bracket in its name. -/
def Bracketed : Segment → Prop
  | .field name => '[' ∈ name.toList ∨ ']' ∈ name.toList
  | _ => False

instance : DecidablePred Bracketed := fun segment =>
  match segment with
  | .field name => inferInstanceAs (Decidable ('[' ∈ name.toList ∨ ']' ∈ name.toList))
  | .method _ _ | .index _ => isFalse id

/-- No field with a bracket in its name stands right before an index. -/
def Detached (segments : List Segment) : Prop :=
  ∀ before segment position after,
    segments = before ++ segment :: .index position :: after → ¬ Bracketed segment

/-- What becomes of segments that are printed and read back: a field with a
bracket in its name takes the text of the index segments after it. -/
def glue : List Segment → List Segment
  | [] => []
  | segment :: rest =>
    if Bracketed segment then
      .field (String.ofList
        (segment.text ++ (rest.takeWhile Segment.isIndex).flatMap Segment.text)) ::
          glue (rest.dropWhile Segment.isIndex)
    else segment :: glue rest
termination_by segments => segments.length
decreasing_by
  · exact Nat.lt_succ_of_le (List.dropWhile_sublist _).length_le
  · exact Nat.lt_succ_self _

/-! ## Gluing -/

private theorem detached_cons : Detached (segment :: rest) ↔
    (Bracketed segment → ∀ position after, rest ≠ .index position :: after) ∧ Detached rest := by
  constructor
  · intro detached
    refine ⟨fun bracketed position after same => ?_, fun before other position after same => ?_⟩
    · exact detached [] segment position after (by rw [same]; rfl) bracketed
    · exact detached (segment :: before) other position after (by rw [same]; rfl)
  · rintro ⟨head, tail⟩ before other position after same bracketed
    cases before with
    | nil =>
      obtain ⟨rfl, rest⟩ := List.cons.inj same
      exact head bracketed position after rest
    | cons first before =>
      exact tail before other position after (List.cons.inj same).2 bracketed

theorem length_glue_le (segments : List Segment) : (glue segments).length ≤ segments.length := by
  fun_induction glue segments with
  | case1 => simp
  | case2 segment rest bracketed ih =>
    have shorter := (List.dropWhile_sublist (l := rest) Segment.isIndex).length_le
    simp only [List.length_cons]
    omega
  | case3 segment rest plain ih => simpa using ih

private theorem index_of_isIndex (index : Segment.isIndex segment = true) :
    ∃ position, segment = .index position := by
  cases segment with
  | field name => cases index
  | method name slots => cases index
  | index position => exact ⟨position, rfl⟩

/-- The text of a field is its name. -/
private theorem field_of_bracketed (bracketed : Bracketed segment) :
    .field (String.ofList segment.text) = segment := by
  cases segment with
  | field name => simp [Segment.text]
  | method name slots => exact bracketed.elim
  | index position => exact bracketed.elim

/-- Gluing leaves segments alone exactly if there is nothing to glue. -/
theorem glue_eq_self_iff (segments : List Segment) : glue segments = segments ↔ Detached segments := by
  fun_induction glue segments with
  | case1 => simp [Detached]
  | case2 segment rest bracketed ih =>
    have itself := field_of_bracketed bracketed
    rw [detached_cons]
    cases rest with
    | nil => simpa [glue, itself] using (by simp [Detached] : Detached [])
    | cons next more =>
      by_cases index : next.isIndex = true
      · have shorter := length_glue_le (more.dropWhile Segment.isIndex)
        have dropped := (List.dropWhile_sublist (l := more) Segment.isIndex).length_le
        constructor
        · intro same
          have lengths := congrArg List.length same
          simp only [List.dropWhile_cons, index, ↓reduceIte, List.length_cons] at lengths
          omega
        · rintro ⟨head, -⟩
          obtain ⟨position, rfl⟩ := index_of_isIndex index
          exact absurd rfl (head bracketed position more)
      · have other : ∀ position after, next :: more ≠ .index position :: after := by
          rintro position after same
          obtain ⟨rfl, -⟩ := List.cons.inj same
          exact index rfl
        simp only [List.takeWhile_cons, List.dropWhile_cons, index, Bool.false_eq_true, ↓reduceIte,
          List.flatMap_nil, List.append_nil, itself, List.cons_inj_right] at ih ⊢
        exact ih.trans ⟨fun tail => ⟨fun _ => other, tail⟩, And.right⟩
  | case3 segment rest plain ih =>
    rw [detached_cons, List.cons_inj_right, ih]
    exact ⟨fun tail => ⟨fun bracketed => absurd bracketed plain, tail⟩, And.right⟩

private theorem glue_indices (indices later : List Segment)
    (all : ∀ segment ∈ indices, segment.isIndex = true) :
    glue (indices ++ later) = indices ++ glue later := by
  induction indices with
  | nil => rfl
  | cons segment others ih =>
    obtain ⟨position, rfl⟩ := index_of_isIndex (all segment List.mem_cons_self)
    have plain : ¬ Bracketed (.index position) := id
    rw [List.cons_append, glue, if_neg plain,
      ih fun other member => all other (List.mem_cons_of_mem _ member), List.cons_append]

/-! ## The text of segments -/

private theorem textAfter_indices (indices later : List Segment)
    (all : ∀ segment ∈ indices, segment.isIndex = true) :
    Path.textAfter (indices ++ later) = indices.flatMap Segment.text ++ Path.textAfter later := by
  induction indices with
  | nil => rfl
  | cons segment others ih =>
    have rest := ih fun other member => all other (List.mem_cons_of_mem _ member)
    simp [Path.textAfter, all segment List.mem_cons_self, rest]

/-- A call with these slots, a comma after each one but the last. -/
def slotsOf : List UInt64 → List Slot
  | [] => []
  | [slot] => [⟨_, Nat.toDigits_ne_nil, DecimalText.digits_toDigits slot.toNat, false⟩]
  | slot :: next :: more =>
    ⟨_, Nat.toDigits_ne_nil, DecimalText.digits_toDigits slot.toNat, true⟩ :: slotsOf (next :: more)

private theorem text_slotsOf (slots : List UInt64) :
    (slotsOf slots).flatMap Slot.text = ((slots.map Segment.slotText).intersperse [',']).flatten := by
  fun_induction slotsOf slots with
  | case1 => rfl
  | case2 slot => simp [Slot.text, Segment.slotText]
  | case3 slot next more ih =>
    rw [List.flatMap_cons, ih]
    simp [Slot.text, Segment.slotText]

private theorem number_of_digits (digits : Digits (Nat.toDigits 10 slot.toNat)) :
    Slot.number ⟨_, Nat.toDigits_ne_nil, digits, comma⟩ = (slot : UInt64).toNat := by
  have small := slot.toNat_lt
  simp only [Slot.number, Nat.ofDigitChars_ten_toDigits]
  omega

private theorem numbers_slotsOf (slots : List UInt64) :
    slots.map UInt64.toNat = (slotsOf slots).map Slot.number := by
  fun_induction slotsOf slots with
  | case1 => rfl
  | case2 slot => simp [number_of_digits]
  | case3 slot next more ih =>
    rw [List.map_cons, ih, List.map_cons, number_of_digits]

/-- A method segment with a proper name is written as a call of that name. -/
theorem method_is_call (identifier : Identifier name.toList) (slots : List UInt64) :
    ∃ call : Call, (Segment.method name slots).text = call.text ∧
      Classified call.text (.method name slots) := by
  let call : Call := ⟨name.toList, identifier, slotsOf slots⟩
  have classified := Classified.call call slots (numbers_slotsOf slots)
  rw [String.ofList_toList] at classified
  refine ⟨call, ?_, classified⟩
  simp only [Segment.text, Call.text, call, text_slotsOf]

private theorem integer_text (n : Int) : n.repr.toList =
    (if n < 0 then ['-'] else []) ++ Nat.toDigits 10 n.natAbs := by
  rw [Int.repr_eq_if]
  by_cases negative : n < 0
  · have magnitude : (-n).toNat = n.natAbs := by omega
    simp [negative, Int.not_le.mpr negative, magnitude, Nat.toList_repr]
  · have magnitude : n.toNat = n.natAbs := by omega
    simp [negative, Int.not_lt.mp negative, magnitude, Nat.toList_repr]

/-- An index segment with a magnitude is written as an index group for it. -/
theorem index_is_group (magnitude : position ≠ some Int64.minValue) :
    ∃ group : IndexGroup, (Segment.index position).text = group.text ∧ group.Means position := by
  cases position with
  | none =>
    refine ⟨⟨false, [], by simp [Digits]⟩, rfl, fun n => ?_⟩
    simp
  | some n =>
    have digits := DecimalText.digits_toDigits n.toInt.natAbs
    let group : IndexGroup := ⟨n.toInt < 0, _, digits⟩
    have value : group.magnitude = n.toInt.natAbs := Nat.ofDigitChars_ten_toDigits
    have signed : group.signed = n.toInt := by
      simp only [IndexGroup.signed, value, group, decide_eq_true_eq]
      split <;> omega
    have representable : n.toInt ≠ -2 ^ 63 := fun same =>
      magnitude (congrArg some (Int64.toInt.inj same))
    have lower := n.le_toInt
    have upper := n.toInt_lt
    refine ⟨group, ?_, fun other => ?_⟩
    · simp [Segment.text, IndexGroup.text, IndexGroup.sign, group, integer_text]
    · rw [value, signed, Option.some.injEq, eq_comm, ← Int64.toInt_inj]
      exact ⟨fun same => ⟨Nat.toDigits_ne_nil, by omega, same⟩, fun facts => facts.2.2⟩

/-- Index segments with magnitudes are written as index groups for them. -/
theorem indices_are_groups (indices : List Segment)
    (all : ∀ segment ∈ indices, segment.isIndex = true ∧ Readable segment) :
    ∃ groups found, indices.flatMap Segment.text = groups.flatMap IndexGroup.text ∧
      List.Forall₂ IndexGroup.Means groups found ∧ indices = found.map .index := by
  induction indices with
  | nil => exact ⟨[], [], rfl, .nil, rfl⟩
  | cons segment others ih =>
    obtain ⟨index, readable⟩ := all segment List.mem_cons_self
    obtain ⟨position, rfl⟩ := index_of_isIndex index
    obtain ⟨group, text, means⟩ := index_is_group readable
    obtain ⟨groups, found, texts, positions, rfl⟩ :=
      ih fun other member => all other (List.mem_cons_of_mem _ member)
    exact ⟨group :: groups, position :: found, by simp [text, texts], .cons means positions, rfl⟩

/-! ## Printed runs -/

/-- The characters of a call. Brackets and dots are not among them. -/
private theorem mem_call_text (call : Call) (member : c ∈ call.text) :
    NamePart c ∨ c ∈ ['(', ')', '{', '}', ','] := by
  obtain ⟨name, identifier, slots⟩ := call
  simp only [Call.text, List.mem_append, List.mem_cons, List.mem_flatMap] at member
  rcases member with inName | opening | ⟨slot, -, inSlot⟩ | closing | impossible
  · cases name with
    | nil => exact identifier.elim
    | cons first more =>
      rcases List.mem_cons.mp inName with rfl | later
      · exact .inl (.inl identifier.1)
      · exact .inl (identifier.2 c later)
  · exact .inr (by simp [opening])
  · simp only [Slot.text, List.mem_cons, List.mem_append] at inSlot
    rcases inSlot with brace | digit | brace | comma
    · exact .inr (by simp [brace])
    · exact .inl (.inr (slot.only_digits c digit))
    · exact .inr (by simp [brace])
    · split at comma
      · exact .inr (by simp_all)
      · cases comma
  · exact .inr (by simp [closing])
  · cases impossible

private theorem call_excludes (call : Call) (special : c = '[' ∨ c = ']' ∨ c = '.') :
    c ∉ call.text := by
  intro member
  have characters := mem_call_text call member
  rcases special with rfl | rfl | rfl <;>
    exact absurd characters (by unfold NamePart NameStart; decide)

private theorem call_is_filled (call : Call) : Text.trim call.text ≠ [] := by
  intro blank
  have all := List.all_eq_true.mp ((trim_eq_nil_iff _).mp blank)
  exact absurd (all '(' (by simp [Call.text])) (by decide)

/-- A base without brackets is read as classified, with the indices of the
groups that stand after it. -/
private theorem plain_run_reads (classified : Classified base segment)
    (filled : Text.trim base ≠ []) (plain : '[' ∉ base ∧ ']' ∉ base)
    (positions : List.Forall₂ IndexGroup.Means groups found) :
    TokenReads (base ++ groups.flatMap IndexGroup.text) (segment :: found.map .index) := by
  cases positions with
  | nil =>
    rw [List.flatMap_nil, List.append_nil]
    apply TokenReads.whole filled
    · intro token same
      exact plain.1 (same ▸ bracket_mem_suffixed token)
    · exact classified
  | cons head tail =>
    exact .based ⟨base, _, plain, List.cons_ne_nil _ _⟩ filled classified (.cons head tail)

/-- Index groups after a field with a bracket in its name are not split off. -/
private theorem bracketed_run_reads (readable : Readable (.field name))
    (bracketed : Bracketed (.field name)) (groups : List IndexGroup) :
    TokenReads (name.toList ++ groups.flatMap IndexGroup.text)
      [.field (String.ofList (name.toList ++ groups.flatMap IndexGroup.text))] := by
  obtain ⟨filled, -, noCall, noGroups⟩ := readable
  have filledRun : Text.trim (name.toList ++ groups.flatMap IndexGroup.text) ≠ [] := by
    intro blank
    rw [trim_eq_nil_iff, Text.isBlankText, List.all_append, Bool.and_eq_true] at blank
    exact filled ((trim_eq_nil_iff _).mpr blank.1)
  apply TokenReads.whole filledRun
  · intro token same
    obtain ⟨more, groups, front⟩ := groups_end_decomposition same token.plain_base.1
    cases more with
    | nil =>
      rw [List.flatMap_nil, List.append_nil] at front
      rcases bracketed with opening | closing
      · exact token.plain_base.1 (front ▸ opening)
      · exact token.plain_base.2 (front ▸ closing)
    | cons group others =>
      exact noGroups ⟨token.base, group :: others, token.plain_base, List.cons_ne_nil _ _⟩ front
  · apply Classified.field
    intro call same
    rcases bracketed with opening | closing
    · exact call_excludes call (.inl rfl) (same ▸ List.mem_append_left _ opening)
    · exact call_excludes call (.inr (.inl rfl)) (same ▸ List.mem_append_left _ closing)

private theorem index_run_reads (positions : List.Forall₂ IndexGroup.Means groups found)
    (some_groups : groups ≠ []) :
    TokenReads (groups.flatMap IndexGroup.text) (found.map .index) :=
  .indexed ⟨[], groups, by simp, some_groups⟩ rfl positions

/-- A segment printed with the index segments after it is one token. Read back
it gives the same segments, but a field with a bracket in its name takes the
index segments into its name. -/
theorem run_reads (readable : Readable segment) (indices : List Segment)
    (all : ∀ other ∈ indices, other.isIndex = true ∧ Readable other) :
    TokenReads (segment.text ++ indices.flatMap Segment.text)
      (if Bracketed segment then
        [.field (String.ofList (segment.text ++ indices.flatMap Segment.text))]
      else segment :: indices) := by
  obtain ⟨groups, found, texts, positions, rfl⟩ := indices_are_groups indices all
  rw [texts]
  cases segment with
  | field name =>
    by_cases bracketed : Bracketed (.field name)
    · rw [if_pos bracketed]
      exact bracketed_run_reads readable bracketed groups
    · have classified := Classified.field readable.2.2.1
      rw [String.ofList_toList] at classified
      rw [if_neg bracketed]
      exact plain_run_reads classified readable.1 (not_or.mp bracketed) positions
  | method name slots =>
    obtain ⟨call, text, classified⟩ := method_is_call readable slots
    have plain := And.intro (call_excludes call (.inl rfl)) (call_excludes call (.inr (.inl rfl)))
    have unbracketed : ¬ Bracketed (.method name slots) := id
    rw [if_neg unbracketed, text]
    exact plain_run_reads classified (call_is_filled call) plain positions
  | index position =>
    obtain ⟨group, text, means⟩ := index_is_group readable
    have unbracketed : ¬ Bracketed (.index position) := id
    rw [if_neg unbracketed, text, ← List.flatMap_cons]
    exact index_run_reads (.cons means positions) (List.cons_ne_nil _ _)

private theorem dot_free_digits (digits : Digits text) : '.' ∉ text :=
  fun member => absurd (digits _ member) (by decide)

private theorem dot_free_text (readable : Readable segment) : '.' ∉ segment.text := by
  cases segment with
  | field name => exact readable.2.1
  | method name slots =>
    obtain ⟨call, text, -⟩ := method_is_call readable slots
    exact text ▸ call_excludes call (.inr (.inr rfl))
  | index position =>
    obtain ⟨group, text, -⟩ := index_is_group readable
    have digits := dot_free_digits group.only_digits
    rw [text, IndexGroup.text, IndexGroup.sign]
    split <;> simp [digits]

/-! ## Printed paths -/

/-- Gluing treats a segment and the index segments after it at once. -/
private theorem glue_run (segment : Segment) (indices later : List Segment)
    (all : ∀ other ∈ indices, other.isIndex = true)
    (ended : ∀ next, later.head? = some next → next.isIndex = false) :
    glue (segment :: (indices ++ later)) =
      (if Bracketed segment then
        [.field (String.ofList (segment.text ++ indices.flatMap Segment.text))]
      else segment :: indices) ++ glue later := by
  have taken : (indices ++ later).takeWhile Segment.isIndex = indices := by
    rw [List.takeWhile_append_of_pos all]
    cases later with
    | nil => simp
    | cons next more => simp [ended next rfl]
  have dropped : (indices ++ later).dropWhile Segment.isIndex = later := by
    rw [List.dropWhile_append_of_pos all]
    cases later with
    | nil => rfl
    | cons next more => simp [ended next rfl]
  rw [glue, taken, dropped]
  split
  · rfl
  · rw [glue_indices indices later all, List.cons_append]

/-- The text after a run goes on with a dot and the text of what is left. -/
private theorem text_run (segment : Segment) (indices later : List Segment)
    (all : ∀ other ∈ indices, other.isIndex = true)
    (ended : ∀ next, later.head? = some next → next.isIndex = false) :
    Path.text ⟨segment :: (indices ++ later)⟩ = segment.text ++ indices.flatMap Segment.text ++
      if later = [] then [] else '.' :: Path.text ⟨later⟩ := by
  simp only [Path.text, textAfter_indices indices later all, List.append_assoc]
  cases later with
  | nil => rfl
  | cons next more => simp [Path.textAfter, ended next rfl]

private theorem leading_indices (segments : List Segment) :
    ∃ indices later, segments = indices ++ later ∧
      (∀ other ∈ indices, Segment.isIndex other = true) ∧
      ∀ next, later.head? = some next → Segment.isIndex next = false := by
  refine ⟨_, _, List.takeWhile_append_dropWhile.symm, List.all_eq_true.mp List.all_takeWhile, ?_⟩
  intro next head
  have stopped := List.head?_dropWhile_not Segment.isIndex segments
  rw [head] at stopped
  exact stopped

/-- The tokens of a printed path are its runs. -/
private theorem printed_reads (segments : List Segment)
    (readable : ∀ segment ∈ segments, Readable segment) :
    Reads ((Path.text ⟨segments⟩).splitOn '.') (glue segments) := by
  induction counted : segments.length using Nat.strongRecOn generalizing segments with
  | ind count ih =>
    cases segments with
    | nil =>
      rw [Path.text, List.splitOn_nil, glue]
      exact .cons (.blank rfl) .nil
    | cons segment rest =>
      obtain ⟨indices, later, rfl, all, ended⟩ := leading_indices rest
      have tail : ∀ other ∈ indices ++ later, Readable other :=
        fun other member => readable other (List.mem_cons_of_mem _ member)
      have indicesReadable : ∀ other ∈ indices, Readable other :=
        fun other member => tail other (List.mem_append_left _ member)
      have laterReadable : ∀ other ∈ later, Readable other :=
        fun other member => tail other (List.mem_append_right _ member)
      have first := readable segment List.mem_cons_self
      have run := run_reads first indices fun other member =>
        ⟨all other member, indicesReadable other member⟩
      have noDot : '.' ∉ segment.text ++ indices.flatMap Segment.text := by
        intro member
        rcases List.mem_append.mp member with inside | inside
        · exact dot_free_text first inside
        · obtain ⟨other, index, inside⟩ := List.mem_flatMap.mp inside
          exact dot_free_text (indicesReadable other index) inside
      rw [glue_run segment indices later all ended, text_run segment indices later all ended]
      by_cases last : later = []
      · subst last
        rw [if_pos rfl, List.append_nil, List.splitOn_eq_singleton noDot, glue]
        exact .cons run .nil
      · have shorter : later.length < count := by
          rw [← counted, List.length_cons, List.length_append]
          omega
        rw [if_neg last, List.splitOn_append_cons_self_of_not_mem noDot]
        exact .cons run (ih later.length shorter later laterReadable rfl)

private theorem path_eq_iff {path other : Path} : path = other ↔ path.segments = other.segments := by
  cases path
  cases other
  simp

/-- Printing readable segments and reading them back glues them. -/
theorem parse_display (path : Path) (readable : ∀ segment ∈ path.segments, Readable segment) :
    (Path.parse path.display).segments = glue path.segments := by
  rw [Path.parse, Path.display, String.toList_ofList, Path.ofText]
  exact reads_iff.mp (printed_reads path.segments readable)

/-! ## Segments that were read -/

private theorem classified_readable (classified : Classified text segment)
    (filled : Text.trim text ≠ []) (dot : '.' ∉ text) (other : ∀ token : Suffixed, text ≠ token.text) :
    Readable segment := by
  cases classified with
  | call call slots numbers => simpa [Readable] using call.identifier
  | field noCall => simpa [Readable] using ⟨filled, dot, noCall, other⟩

private theorem meant_readable (positions : List.Forall₂ IndexGroup.Means groups found) :
    ∀ segment ∈ found.map Segment.index, Readable segment := by
  induction positions with
  | nil => simp
  | cons means tail ih =>
    rename_i group position groups found
    have magnitude : position ≠ some Int64.minValue := by
      rintro rfl
      obtain ⟨-, small, number⟩ := (means _).mp rfl
      rw [Int64.toInt_minValue, IndexGroup.signed] at number
      split at number <;> omega
    intro segment member
    rcases List.mem_cons.mp member with rfl | later
    · exact magnitude
    · exact ih segment later

/-- What a token without dots is read as can be written and read back. -/
private theorem token_readable (reads : TokenReads text segments) (dot : '.' ∉ text) :
    ∀ segment ∈ segments, Readable segment := by
  cases reads with
  | blank blank => simp
  | indexed token blank positions => exact meant_readable positions
  | based token filled classified positions =>
    intro segment member
    rcases List.mem_cons.mp member with rfl | index
    · apply classified_readable classified filled
      · intro inside
        exact dot (List.mem_append_left _ inside)
      · intro other same
        exact token.plain_base.1 (same ▸ bracket_mem_suffixed other)
    · exact meant_readable positions segment index
  | whole filled other classified =>
    intro segment member
    rw [List.mem_singleton.mp member]
    exact classified_readable classified filled dot other

/-- Every segment of a path that was read can be written and read back. -/
theorem parse_readable (text : String) : ∀ segment ∈ (Path.parse text).segments, Readable segment := by
  intro segment member
  obtain ⟨piece, inPieces, inPiece⟩ := List.mem_flatMap.mp member
  have dot := (pieces_iff.mpr rfl).2.1 piece inPieces
  exact token_readable (tokenReads_iff.mpr rfl) dot segment inPiece

/-! ## Main results -/

/-- A path that was read from text is read back from its canonical text exactly
if no field with a bracket in its name stands right before an index. -/
theorem read_path_reads_back_iff (text : String) :
    Path.parse (Path.parse text).display = Path.parse text ↔
      Detached (Path.parse text).segments := by
  rw [← glue_eq_self_iff, ← parse_display _ (parse_readable text), path_eq_iff]

/-- Reading keeps such a field apart from the index after it by a dot, which
printing leaves out. -/
theorem bracketed_field_takes_index :
    Path.parse (Path.parse "a].[0]").display ≠ Path.parse "a].[0]" := by
  decide +kernel

/-- A path is read back from its canonical text exactly if every segment is
written as it is read and no field with a bracket in its name stands right
before an index. -/
theorem path_reads_back_iff (path : Path) : Path.parse path.display = path ↔
    (∀ segment ∈ path.segments, Readable segment) ∧ Detached path.segments := by
  constructor
  · intro same
    have readable : ∀ segment ∈ path.segments, Readable segment := by
      rw [← same]
      exact parse_readable _
    refine ⟨readable, ?_⟩
    apply (glue_eq_self_iff _).mp
    rw [← parse_display path readable, same]
  · rintro ⟨readable, detached⟩
    rw [path_eq_iff, parse_display path readable]
    exact (glue_eq_self_iff _).mpr detached

end ValuePath.PathPrinting
