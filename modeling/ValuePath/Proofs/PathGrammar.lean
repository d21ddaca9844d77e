import Mathlib.Algebra.Group.Nat.Defs
import Mathlib.Data.List.Forall2
import Mathlib.Data.List.Induction
import ValuePath.Path.Segment
import ValuePath.Text.Blank
import ValuePath.Proofs.DecimalText

/-! The grammar of paths, stated without any reader: what an index group, a
call and a token with index groups at its end are written as, and which
segments each of them stands for. The groups at the end of a token are
determined by its text alone. -/
namespace ValuePath.PathGrammar
open DecimalText (Digits)

/-- `[`, perhaps a minus sign, digits, `]`. The digits may be missing. -/
structure IndexGroup where
  negative : Bool
  digits : List Char
  only_digits : Digits digits

namespace IndexGroup

def sign (group : IndexGroup) : List Char := if group.negative then ['-'] else []

def text (group : IndexGroup) : List Char := '[' :: (group.sign ++ (group.digits ++ [']']))

def magnitude (group : IndexGroup) : Nat := Nat.ofDigitChars 10 group.digits 0

def signed (group : IndexGroup) : Int :=
  if group.negative then -(group.magnitude : Int) else group.magnitude

/-- A group has a position exactly if it has digits that spell a magnitude
of at most `2 ^ 63 - 1`; the position is then the signed number. -/
def Means (group : IndexGroup) (position : Option Int64) : Prop :=
  ∀ n : Int64, position = some n ↔
    group.digits ≠ [] ∧ group.magnitude ≤ 2 ^ 63 - 1 ∧ n.toInt = group.signed

end IndexGroup

/-- `{`, at least one digit, `}`, perhaps a comma. -/
structure Slot where
  digits : List Char
  some_digits : digits ≠ []
  only_digits : Digits digits
  comma : Bool

namespace Slot

def text (slot : Slot) : List Char :=
  '{' :: (slot.digits ++ '}' :: if slot.comma then [','] else [])

/-- The spelled number, or the greatest slot where it is beyond that. -/
def number (slot : Slot) : Nat := min (Nat.ofDigitChars 10 slot.digits 0) (2 ^ 64 - 1)

end Slot

def NameStart (c : Char) : Prop := ('A' ≤ c ∧ c ≤ 'Z') ∨ ('a' ≤ c ∧ c ≤ 'z') ∨ c = '_'

def NamePart (c : Char) : Prop := NameStart c ∨ ('0' ≤ c ∧ c ≤ '9')

/-- A letter or underscore, then letters, digits and underscores. -/
def Identifier : List Char → Prop
  | [] => False
  | first :: more => NameStart first ∧ ∀ c ∈ more, NamePart c

/-- An identifier and slots in round brackets. -/
structure Call where
  name : List Char
  identifier : Identifier name
  slots : List Slot

def Call.text (call : Call) : List Char :=
  call.name ++ '(' :: (call.slots.flatMap Slot.text ++ [')'])

/-- A base without square brackets and at least one index group after it. -/
structure Suffixed where
  base : List Char
  groups : List IndexGroup
  plain_base : '[' ∉ base ∧ ']' ∉ base
  some_groups : groups ≠ []

def Suffixed.text (token : Suffixed) : List Char :=
  token.base ++ token.groups.flatMap IndexGroup.text

/-- What a text without index groups at its end stands for: a call if the
whole text is written as one, else a field with that very name. -/
inductive Classified : List Char → Segment → Prop where
  | call (call : Call) (slots : List UInt64)
      (numbers : slots.map UInt64.toNat = call.slots.map Slot.number) :
      Classified call.text (.method (String.ofList call.name) slots)
  | field (other : ∀ call : Call, text ≠ call.text) :
      Classified text (.field (String.ofList text))

/-- What a text stands for that is taken as one segment: a single index group
is that index, any other text is what it is classified as. -/
inductive SegmentReads : List Char → Segment → Prop where
  | group (group : IndexGroup) (means : group.Means found) :
      SegmentReads group.text (.index found)
  | other {segment : Segment} (other : ∀ group : IndexGroup, text ≠ group.text)
      (classified : Classified text segment) : SegmentReads text segment

/-- What one token stands for. Blank tokens stand for nothing, and so does a
blank base before index groups. -/
inductive TokenReads : List Char → List Segment → Prop where
  | blank (blank : Text.trim text = []) : TokenReads text []
  | indexed (token : Suffixed) (blank : Text.trim token.base = [])
      (positions : List.Forall₂ IndexGroup.Means token.groups found) :
      TokenReads token.text (found.map .index)
  | based {segment : Segment} (token : Suffixed) (filled : Text.trim token.base ≠ [])
      (classified : Classified token.base segment)
      (positions : List.Forall₂ IndexGroup.Means token.groups found) :
      TokenReads token.text (segment :: found.map .index)
  | whole {segment : Segment} (filled : Text.trim text ≠ [])
      (other : ∀ token : Suffixed, text ≠ token.text) (classified : Classified text segment) :
      TokenReads text [segment]

/-- The segments of tokens are those of each token, in order. -/
inductive Reads : List (List Char) → List Segment → Prop where
  | nil : Reads [] []
  | cons (head : TokenReads token segments) (tail : Reads tokens others) :
      Reads (token :: tokens) (segments ++ others)

/-- The pieces between the dots of a text. -/
def Pieces (text : List Char) (pieces : List (List Char)) : Prop :=
  pieces ≠ [] ∧ (∀ piece ∈ pieces, '.' ∉ piece) ∧ ['.'].intercalate pieces = text

/-! ## One decomposition -/

/-- No index group holds an opening bracket but its first character. -/
private theorem bracket_inside_group (group : IndexGroup) :
    '[' ∉ group.sign ++ (group.digits ++ [']']) := by
  have sign : '[' ∉ group.sign := by
    unfold IndexGroup.sign
    split <;> simp
  have digits : '[' ∉ group.digits := fun member =>
    absurd (group.only_digits _ member) (by decide)
  simp [sign, digits]

/-- The last opening bracket of a text tells where its last group begins. -/
private theorem last_group_unique {front other : List Char} {group last : IndexGroup}
    (same : front ++ group.text = other ++ last.text) : front = other ∧ group.text = last.text := by
  have inside := bracket_inside_group group
  have lastInside := bracket_inside_group last
  unfold IndexGroup.text at same ⊢
  rcases List.append_eq_append_iff.mp same with ⟨gap, rfl, cut⟩ | ⟨gap, rfl, cut⟩
  · cases gap with
    | nil => exact ⟨by simp, by simpa using cut⟩
    | cons c gap =>
      have tail := (List.cons.inj cut).2
      exact absurd (by rw [tail]; simp) inside
  · cases gap with
    | nil => exact ⟨by simp, by simpa using cut.symm⟩
    | cons c gap =>
      have tail := (List.cons.inj cut).2
      exact absurd (by rw [tail]; simp) lastInside

private theorem group_of_text {group other : IndexGroup} (same : group.text = other.text) :
    group = other := by
  have ended : group.sign ++ (group.digits ++ [']']) = other.sign ++ (other.digits ++ [']']) :=
    (List.cons.inj same).2
  rw [← List.append_assoc, ← List.append_assoc] at ended
  have inner := List.append_cancel_right ended
  have minus : '-' ∉ group.digits := fun member =>
    absurd (group.only_digits _ member) (by decide)
  have otherMinus : '-' ∉ other.digits := fun member =>
    absurd (other.only_digits _ member) (by decide)
  have parts : group.negative = other.negative ∧ group.digits = other.digits := by
    simp only [IndexGroup.sign] at inner
    cases negative : group.negative <;> cases otherNegative : other.negative <;>
      simp only [negative, otherNegative, Bool.false_eq_true, ↓reduceIte, List.nil_append,
        List.cons_append, List.cons_inj_right] at inner
    · exact ⟨rfl, inner⟩
    · exact absurd (by simp [inner]) minus
    · exact absurd (by simp [← inner]) otherMinus
    · exact ⟨rfl, inner⟩
  cases group
  cases other
  simp_all

/-- Groups at the end of a text are the last groups of every decomposition of
that text, so what stands before them is decomposed by the remaining groups. -/
theorem groups_end_decomposition {front base : List Char} {groups others : List IndexGroup}
    (same : front ++ groups.flatMap IndexGroup.text = base ++ others.flatMap IndexGroup.text)
    (plain : '[' ∉ base) :
    ∃ more, others = more ++ groups ∧ front = base ++ more.flatMap IndexGroup.text := by
  induction groups using List.reverseRecOn generalizing others with
  | nil => exact ⟨others, by simp, by simpa using same⟩
  | append_singleton groups group ih =>
    rcases List.eq_nil_or_concat others with rfl | ⟨init, last, rfl⟩
    · have inside : '[' ∈ base := by
        rw [List.flatMap_nil, List.append_nil] at same
        simp [← same, IndexGroup.text]
      exact absurd inside plain
    · simp only [List.concat_eq_append, List.flatMap_append, List.flatMap_singleton,
        ← List.append_assoc] at same
      obtain ⟨before, text⟩ := last_group_unique same
      obtain ⟨more, rfl, front⟩ := ih before
      exact ⟨more, by rw [group_of_text text]; simp, front⟩

/-- A token has at most one base with index groups after it. -/
theorem suffixed_unique {token other : Suffixed} (same : token.text = other.text) :
    token = other := by
  obtain ⟨more, groups, base⟩ := groups_end_decomposition same other.plain_base.1
  have empty : more = [] := by
    cases more with
    | nil => rfl
    | cons group rest =>
      exact absurd (by simp [base, IndexGroup.text]) token.plain_base.1
  subst empty
  cases token
  cases other
  simp_all

end ValuePath.PathGrammar
