import ValuePath.Text.Search

/-! Searching text. A needle is found at its first match, and not found exactly if it
stands nowhere in the text. -/
namespace ValuePath.TextSearch

/-- The needle begins at this position, and at none before it. -/
structure FirstMatch (needle text : List Char) (position : Nat) : Prop where
  here : needle <+: text.drop position
  earlier : ∀ before < position, ¬ needle <+: text.drop before

variable {needle text : List Char} {c : Char} {position other : Nat}

theorem FirstMatch.unique (first : FirstMatch needle text position)
    (firstToo : FirstMatch needle text other) : position = other := by
  rcases Nat.lt_trichotomy position other with less | same | greater
  · exact absurd first.here (firstToo.earlier position less)
  · exact same
  · exact absurd firstToo.here (first.earlier other greater)

theorem FirstMatch.contained (first : FirstMatch needle text position) : needle <:+: text :=
  first.here.isInfix.trans (text.drop_suffix position).isInfix

theorem firstMatch_zero_iff : FirstMatch needle text 0 ↔ needle <+: text :=
  ⟨fun first => first.here, fun here => ⟨here, fun _ less => absurd less (Nat.not_lt_zero _)⟩⟩

/-- Where no match begins at once, the first one begins behind the first character. -/
theorem firstMatch_cons_iff (elsewhere : ¬ needle <+: c :: text) :
    FirstMatch needle (c :: text) (position + 1) ↔ FirstMatch needle text position := by
  constructor
  · rintro ⟨here, earlier⟩
    exact ⟨here, fun before less => earlier (before + 1) (Nat.succ_lt_succ less)⟩
  · rintro ⟨here, earlier⟩
    refine ⟨here, fun before less => ?_⟩
    cases before with
    | zero => exact elsewhere
    | succ before => exact earlier before (Nat.lt_of_succ_lt_succ less)

/-- A match lies within the text. -/
theorem FirstMatch.inside (first : FirstMatch needle text position) :
    position + needle.length ≤ text.length := by
  cases position with
  | zero => simpa using first.here.length_le
  | succ position =>
    have nonempty : needle ≠ [] := by
      rintro rfl
      exact first.earlier 0 (Nat.succ_pos _) List.nil_prefix
    have positive := List.length_pos_iff.mpr nonempty
    have within := first.here.length_le
    rw [List.length_drop] at within
    omega

theorem find_eq_none_iff : Text.find? needle text = none ↔ ¬ needle <:+: text := by
  induction text with
  | nil => simp [Text.find?]
  | cons c rest ih =>
    rw [Text.find?, List.infix_cons_iff, not_or, ← ih, ← List.isPrefixOf_iff_prefix]
    split
    · rename_i here
      exact ⟨nofun, fun both => absurd here both.1⟩
    · rename_i elsewhere
      rw [Option.map_eq_none_iff]
      exact ⟨fun none => ⟨elsewhere, none⟩, fun both => both.2⟩

theorem firstMatch_of_find (found : Text.find? needle text = some position) :
    FirstMatch needle text position := by
  induction text generalizing position with
  | nil =>
    simp only [Text.find?, List.isEmpty_iff, Option.ite_none_right_eq_some,
      Option.some.injEq] at found
    obtain ⟨rfl, rfl⟩ := found
    exact firstMatch_zero_iff.mpr List.nil_prefix
  | cons c rest ih =>
    rw [Text.find?] at found
    split at found
    · rename_i here
      cases found
      exact firstMatch_zero_iff.mpr (List.isPrefixOf_iff_prefix.mp here)
    · rename_i elsewhere
      obtain ⟨before, inRest, rfl⟩ := Option.map_eq_some_iff.mp found
      exact (firstMatch_cons_iff (mt List.isPrefixOf_iff_prefix.mpr elsewhere)).mpr (ih inRest)

theorem find_eq_some_iff :
    Text.find? needle text = some position ↔ FirstMatch needle text position := by
  refine ⟨firstMatch_of_find, fun first => ?_⟩
  cases found : Text.find? needle text with
  | none => exact absurd first.contained (find_eq_none_iff.mp found)
  | some other => rw [(firstMatch_of_find found).unique first]

theorem contains_iff : Text.contains needle text = true ↔ needle <:+: text := by
  rw [Text.contains, Option.isSome_iff_ne_none, Ne, find_eq_none_iff, Decidable.not_not]

end ValuePath.TextSearch
