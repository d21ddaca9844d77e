import Mathlib.Data.List.Forall2
import ValuePath.Members.Summary

/-! Names in quotes, and lists of them. A character stands for itself, unless a letter behind a
backslash is kept for it or it does not show by itself; then its code stands there. -/
namespace ValuePath.QuotedNames
open Text

/-- The letter that stands behind a backslash for a character. -/
inductive StandsFor : Char → Char → Prop where
  | quote : StandsFor '"' '"'
  | backslash : StandsFor '\\' '\\'
  | lineFeed : StandsFor 'n' '\n'
  | carriageReturn : StandsFor 'r' '\r'
  | tab : StandsFor 't' '\t'
  | null : StandsFor '0' '\u0000'

/-- How one character of a name is spelt between the quotes. -/
inductive SpellsChar : List Char → Char → Prop where
  | letter (stands : StandsFor letter c) : SpellsChar ['\\', letter] c
  | code (unnamed : ∀ letter, ¬ StandsFor letter c) (hidden : isHidden c = true) :
      SpellsChar (['\\', 'u', '{'] ++ Nat.toDigits 16 c.toNat ++ ['}']) c
  | itself (unnamed : ∀ letter, ¬ StandsFor letter c) (shown : isHidden c = false) :
      SpellsChar [c] c

/-- How a name is spelt between the quotes, one character after the other. -/
inductive Spells : List Char → List Char → Prop where
  | nil : Spells [] []
  | cons (char : SpellsChar piece c) (rest : Spells text name) : Spells (piece ++ text) (c :: name)

/-- The text is the name in quotes. -/
def Quotes (text name : String) : Prop :=
  ∃ spelt, Spells spelt name.toList ∧ text = String.ofList ('"' :: (spelt ++ ['"']))

/-- The text lists just these names, in this order. -/
def Lists (text : String) (names : List String) : Prop :=
  ∃ quoted, List.Forall₂ Quotes quoted names ∧
    text = "[" ++ String.intercalate ", " quoted ++ "]"

theorem quoteChar_letter {letter c : Char} (stands : StandsFor letter c) :
    quoteChar c = ['\\', letter] := by
  cases stands <;> rfl

/-- A letter is kept for these characters only. -/
theorem quoteChar_unnamed {c : Char} (unnamed : ∀ letter, ¬ StandsFor letter c) :
    quoteChar c =
      if isHidden c then ['\\', 'u', '{'] ++ Nat.toDigits 16 c.toNat ++ ['}'] else [c] := by
  have other {letter d : Char} (stands : StandsFor letter d) : c ≠ d := by
    rintro rfl
    exact unnamed letter stands
  rw [quoteChar, if_neg (other .quote), if_neg (other .backslash), if_neg (other .lineFeed),
    if_neg (other .carriageReturn), if_neg (other .tab), if_neg (other .null)]

theorem spellsChar_iff {text : List Char} {c : Char} :
    SpellsChar text c ↔ text = quoteChar c := by
  constructor
  · intro spells
    cases spells with
    | letter stands => exact (quoteChar_letter stands).symm
    | code unnamed hidden => rw [quoteChar_unnamed unnamed, if_pos hidden]
    | itself unnamed shown => rw [quoteChar_unnamed unnamed, shown, if_neg Bool.false_ne_true]
  · rintro rfl
    by_cases named : ∃ letter, StandsFor letter c
    · obtain ⟨letter, stands⟩ := named
      exact quoteChar_letter stands ▸ .letter stands
    · have unnamed := not_exists.mp named
      rw [quoteChar_unnamed unnamed]
      cases shown : isHidden c with
      | false => exact .itself unnamed shown
      | true => exact .code unnamed shown

theorem spells_iff {text name : List Char} : Spells text name ↔ text = name.flatMap quoteChar := by
  constructor
  · intro spells
    induction spells with
    | nil => rfl
    | cons char rest ih => rw [spellsChar_iff.mp char, ih, List.flatMap_cons]
  · rintro rfl
    induction name with
    | nil => exact .nil
    | cons c rest ih => exact .cons (spellsChar_iff.mpr rfl) ih

theorem quotes_iff {text name : String} : Quotes text name ↔ text = quoted name := by
  constructor
  · rintro ⟨spelt, spells, rfl⟩
    rw [spells_iff.mp spells]
    rfl
  · rintro rfl
    exact ⟨_, spells_iff.mpr rfl, rfl⟩

/-- A mark that would combine with the letter before it is told by its code. -/
example : Quotes "\"\\\"क\\u\x7b94d\x7d\"" "\"क\u094D" := quotes_iff.mpr (by decide +kernel)

/-- There is one text for a list of names. -/
theorem lists_iff {text : String} {names : List String} :
    Lists text names ↔ text = TypeInfo.nameList names := by
  have each {texts : List String} : List.Forall₂ Quotes texts names ↔ texts = names.map quoted := by
    have same : Quotes = fun text name => text = quoted name :=
      funext₂ fun text name => propext quotes_iff
    rw [same, ← List.forall₂_map_right_iff (R := Eq), List.forall₂_eq_eq_eq]
  constructor
  · rintro ⟨texts, quotes, rfl⟩
    rw [each.mp quotes]
    rfl
  · rintro rfl
    exact ⟨names.map quoted, each.mpr rfl, rfl⟩

end ValuePath.QuotedNames
