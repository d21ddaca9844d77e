import Mathlib.Data.List.DropRight
import ValuePath.Proofs.MemberCalls
import ValuePath.Proofs.TextSearch

/-! Splitting text. The pieces of a text are what lies between the matches of the
separator, each one the first match behind the one before it; a text has one such
split, and its pieces with the separator between them make the text again. A string
answers with these pieces up to the last one that is not empty. -/
namespace ValuePath.SplitPieces
open MemberCalls TextSearch

/-- The split of a text from left to right. Matches do not overlap, since the next one
is looked for behind the one before. -/
inductive Leftmost (separator : List Char) : List Char → List (List Char) → Prop where
  | whole (nowhere : ¬ separator <:+: text) : Leftmost separator text [text]
  | cut (first : FirstMatch separator text position)
      (later : Leftmost separator (text.drop (position + separator.length)) pieces) :
      Leftmost separator text (text.take position :: pieces)

/-- The pieces of the leftmost split of a text, without the empty ones at its end. -/
structure Trimmed (separator text : List Char) (pieces : List (List Char)) : Prop where
  last : pieces.getLast? ≠ some []
  free : ∀ piece ∈ pieces, ¬ separator <:+: piece
  leftmost : ∃ empty, ∀ whole, Leftmost separator text whole ↔
    whole = pieces ++ List.replicate empty []
  joins : ∀ whole, Leftmost separator text whole → separator.intercalate whole = text
  nothing : pieces = [] ↔ ∃ count ≥ 1, text = (List.replicate count separator).flatten

variable {separator text piece : List Char} {position : Nat} {pieces : List (List Char)}

/-! ## The leftmost split -/

theorem split_at_match (first : FirstMatch separator text position) :
    text.take position ++ separator ++ text.drop (position + separator.length) = text := by
  obtain ⟨rest, split⟩ := first.here
  have behind : text.drop (position + separator.length) = rest := by
    rw [← List.drop_drop, ← split, List.drop_left]
  rw [behind, List.append_assoc, split, List.take_append_drop]

theorem Leftmost.nonempty (split : Leftmost separator text pieces) : pieces ≠ [] := by
  cases split <;> exact List.cons_ne_nil _ _

theorem Leftmost.unique {others : List (List Char)} (split : Leftmost separator text pieces)
    (also : Leftmost separator text others) : pieces = others := by
  induction split generalizing others with
  | whole nowhere =>
    cases also with
    | whole => rfl
    | cut first => exact absurd first.contained nowhere
  | cut first later ih =>
    cases also with
    | whole nowhere => exact absurd first.contained nowhere
    | cut firstToo laterToo =>
      obtain rfl := first.unique firstToo
      rw [ih laterToo]

/-- The pieces with the separator between them make the text again. -/
theorem Leftmost.joins (split : Leftmost separator text pieces) :
    separator.intercalate pieces = text := by
  induction split with
  | whole nowhere => exact List.intercalate_singleton
  | cut first later ih =>
    obtain ⟨next, rest, rfl⟩ := List.exists_cons_of_ne_nil later.nonempty
    rw [List.intercalate_cons_cons, ih, split_at_match first]

/-- A match that lies before the first one is none. -/
theorem free_before (nonempty : separator ≠ []) (first : FirstMatch separator text position) :
    ¬ separator <:+: text.take position := by
  rintro ⟨before, after, split⟩
  have positive := List.length_pos_iff.mpr nonempty
  have length := congrArg List.length split
  simp only [List.length_append, List.length_take] at length
  refine first.earlier before.length (by omega) ?_
  have whole : text = before ++ (separator ++ (after ++ text.drop position)) := by
    rw [← List.append_assoc, ← List.append_assoc, split, List.take_append_drop]
  rw [whole, List.drop_left]
  exact List.prefix_append _ _

theorem Leftmost.free (nonempty : separator ≠ []) (split : Leftmost separator text pieces) :
    ∀ piece ∈ pieces, ¬ separator <:+: piece := by
  induction split with
  | whole nowhere => simpa using nowhere
  | cut first later ih => exact List.forall_mem_cons.mpr ⟨free_before nonempty first, ih⟩

/-- Separators alone leave empty pieces alone. -/
theorem leftmost_of_run (nonempty : separator ≠ []) (count : Nat) :
    Leftmost separator (List.replicate count separator).flatten (List.replicate (count + 1) []) := by
  induction count with
  | zero => exact .whole (by simpa using nonempty)
  | succ count ih =>
    have here : (List.replicate (count + 1) separator).flatten =
        separator ++ (List.replicate count separator).flatten := by
      rw [List.replicate_succ, List.flatten_cons]
    rw [here]
    refine .cut (firstMatch_zero_iff.mpr (List.prefix_append _ _)) ?_
    rwa [Nat.zero_add, List.drop_left]

theorem Leftmost.empty_iff (nonempty : separator ≠ []) (split : Leftmost separator text pieces) :
    (∀ piece ∈ pieces, piece = []) ↔
      ∃ count, text = (List.replicate count separator).flatten := by
  constructor
  · intro allEmpty
    obtain ⟨first, rest, rfl⟩ := List.exists_cons_of_ne_nil split.nonempty
    have same : first :: rest = List.replicate (rest.length + 1) [] :=
      List.eq_replicate_iff.mpr ⟨rfl, allEmpty⟩
    refine ⟨rest.length, ?_⟩
    rw [← split.joins, ← (leftmost_of_run nonempty rest.length).joins, same]
  · rintro ⟨count, rfl⟩ piece member
    rw [split.unique (leftmost_of_run nonempty count)] at member
    exact List.eq_of_mem_replicate member

/-! ## The pieces that are looked for -/

/-- What is left of a match is passed over. -/
theorem piecesFrom_skip (separator piece text : List Char) (skip : Nat) :
    Text.piecesFrom separator skip piece text =
      Text.piecesFrom separator 0 piece (text.drop skip) := by
  induction text generalizing skip with
  | nil => cases skip <;> rfl
  | cons c rest ih =>
    cases skip with
    | zero => rfl
    | succ skip => exact ih skip

theorem piecesFrom_absent (nowhere : ¬ separator <:+: text) :
    Text.piecesFrom separator 0 piece text = [piece.reverse ++ text] := by
  induction text generalizing piece with
  | nil => rw [Text.piecesFrom, List.append_nil]
  | cons c rest ih =>
    rw [List.infix_cons_iff, not_or] at nowhere
    rw [Text.piecesFrom, if_neg (mt List.isPrefixOf_iff_prefix.mp nowhere.1), ih nowhere.2,
      List.reverse_cons, List.append_assoc, List.singleton_append]

theorem piecesFrom_match (nonempty : separator ≠ [])
    (first : FirstMatch separator text position) :
    Text.piecesFrom separator 0 piece text = (piece.reverse ++ text.take position) ::
      Text.pieces separator (text.drop (position + separator.length)) := by
  induction text generalizing piece position with
  | nil => exact absurd (by simpa using first.here) nonempty
  | cons c rest ih =>
    rw [Text.piecesFrom]
    split
    · rename_i here
      obtain rfl := first.unique (firstMatch_zero_iff.mpr (List.isPrefixOf_iff_prefix.mp here))
      obtain ⟨d, more, rfl⟩ := List.exists_cons_of_ne_nil nonempty
      rw [piecesFrom_skip, Text.pieces, List.take_zero, List.append_nil]
      simp
    · rename_i elsewhere
      have absent : ¬ separator <+: c :: rest := mt List.isPrefixOf_iff_prefix.mpr elsewhere
      cases position with
      | zero => exact absurd first.here absent
      | succ position =>
        rw [ih ((firstMatch_cons_iff absent).mp first), List.reverse_cons, List.append_assoc,
          List.take_succ_cons, List.singleton_append, Nat.add_right_comm, List.drop_succ_cons]

theorem leftmost_pieces (nonempty : separator ≠ []) (text : List Char) :
    Leftmost separator text (Text.pieces separator text) := by
  cases found : Text.find? separator text with
  | none =>
    have nowhere := find_eq_none_iff.mp found
    rw [Text.pieces, piecesFrom_absent nowhere]
    exact .whole nowhere
  | some position =>
    have first := find_eq_some_iff.mp found
    rw [Text.pieces, piecesFrom_match nonempty first]
    exact .cut first (leftmost_pieces nonempty _)
termination_by text.length
decreasing_by
  have positive := List.length_pos_iff.mpr nonempty
  have inside := first.inside
  rw [List.length_drop]
  omega

/-! ## Empty pieces at the end -/

theorem dropEmptyEnd_split (whole : List (List Char)) :
    ∃ empty, whole = StringMembers.dropEmptyEnd whole ++ List.replicate empty [] := by
  have ends : whole.rtakeWhile List.isEmpty =
      List.replicate (whole.rtakeWhile List.isEmpty).length [] :=
    List.eq_replicate_iff.mpr
      ⟨rfl, fun piece member => List.isEmpty_iff.mp (List.mem_rtakeWhile_imp member)⟩
  refine ⟨(whole.rtakeWhile List.isEmpty).length, ?_⟩
  rw [← ends]
  exact List.rdropWhile_append_rtakeWhile.symm

theorem dropEmptyEnd_last (whole : List (List Char)) :
    (StringMembers.dropEmptyEnd whole).getLast? ≠ some [] := by
  intro last
  have some := List.ne_nil_of_mem (List.mem_of_getLast? last)
  have kept := List.rdropWhile_last_not List.isEmpty whole some
  rw [List.getLast?_eq_some_getLast some] at last
  exact kept (List.isEmpty_iff.mpr (Option.some.inj last))

theorem dropEmptyEnd_nil_iff (whole : List (List Char)) :
    StringMembers.dropEmptyEnd whole = [] ↔ ∀ piece ∈ whole, piece = [] := by
  simp [StringMembers.dropEmptyEnd]

/-! ## Answers -/

theorem split_trimmed (some : text ≠ []) (nonempty : separator ≠ []) :
    Trimmed separator text (StringMembers.split text separator) := by
  have pieces : StringMembers.split text separator =
      StringMembers.dropEmptyEnd (Text.pieces separator text) := by
    simp [StringMembers.split, some, nonempty]
  have split := leftmost_pieces nonempty text
  obtain ⟨empty, parted⟩ := dropEmptyEnd_split (Text.pieces separator text)
  rw [pieces]
  refine ⟨dropEmptyEnd_last _, fun piece member => ?_, ⟨empty, fun whole => ?_⟩,
    fun whole => Leftmost.joins, ?_⟩
  · exact split.free nonempty piece (parted ▸ List.mem_append_left _ member)
  · rw [← parted]
    exact ⟨fun also => also.unique split, fun same => same ▸ split⟩
  · rw [dropEmptyEnd_nil_iff, split.empty_iff nonempty]
    refine exists_congr fun count => ⟨fun run => ⟨?_, run⟩, fun run => run.2⟩
    cases count with
    | zero => exact absurd run some
    | succ count => exact Nat.succ_pos count

theorem split_answers {objects : Objects} {text separator : String} :
    call objects (.string text) "split" [.string separator] =
      .ok (.array ((StringMembers.split text.toList separator.toList).map StringMembers.ofChars)) :=
  (string_call_ok_iff rfl rfl rfl (by simp)).mpr rfl

/-- A string answers to a split with the leftmost one, less the empty pieces at its
end. An empty separator splits between all characters, and an empty text is one empty
piece whatever the separator is. -/
theorem split_is_trimmed_leftmost (objects : Objects) (text separator : String) :
    ∃ pieces : List (List Char),
      call objects (.string text) "split" [.string separator] =
        .ok (.array (pieces.map StringMembers.ofChars)) ∧
      (text ≠ "" → separator ≠ "" → Trimmed separator.toList text.toList pieces) ∧
      (text ≠ "" → separator = "" → pieces = text.toList.map ([·])) ∧
      (text = "" → pieces = [[]]) := by
  refine ⟨_, split_answers, fun some nonempty => ?_, fun some empty => ?_, fun empty => ?_⟩
  · exact split_trimmed (mt String.toList_eq_nil_iff.mp some) (mt String.toList_eq_nil_iff.mp nonempty)
  · simp [StringMembers.split, some, empty]
  · simp [StringMembers.split, empty]

/-- Matches of a separator that overlap: of three letters the first two are a match,
and the last two of the text are one at its end. -/
theorem overlapping_matches_split :
    ("aaabaa" ≠ "" ∧ "aa" ≠ "") ∧
      call Objects.empty (.string "aaabaa") "split" [.string "aa"] =
        .ok (.array [.string "", .string "ab"]) ∧
      ∃ pieces, pieces.map StringMembers.ofChars = [.string "", .string "ab"] ∧
        Trimmed "aa".toList "aaabaa".toList pieces := by
  have given : call Objects.empty (.string "aaabaa") "split" [.string "aa"] =
      .ok (.array [.string "", .string "ab"]) := split_answers.trans (by rfl)
  obtain ⟨pieces, answered, trimmed, -⟩ := split_is_trimmed_leftmost Objects.empty "aaabaa" "aa"
  have same := Value.array.inj (Except.ok.inj (answered.symm.trans given))
  exact ⟨⟨by decide, by decide⟩, given, pieces, same, trimmed (by decide) (by decide)⟩

end ValuePath.SplitPieces
