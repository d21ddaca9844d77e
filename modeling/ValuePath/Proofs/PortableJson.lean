import Mathlib.Algebra.Group.Nat.Defs
import ValuePath.Proofs.FlowScalars

/-! JSON documents that mean the same when they are read as YAML. YAML knows no
character that is spelt by the halves of a pair and no second entry under a key, a
key has to end within 1024 bytes of its line, and the two readers agree on integers
of 64 bits and on decimals with few digits. -/
namespace ValuePath.PortableJson
open JsonGrammar FlowScalars
open Numeric (decimalValue)

/-- Whether the piece is spelt by the halves of a pair. -/
def isPair : Piece → Bool
  | .pair .. => true
  | _ => false

/-- The decimal digits of a literal, without its point. -/
def digits (literal : Literal) : List Char := literal.whole.val ++ fractionDigits literal.fraction

/-- The power of ten of the last digit of a literal. -/
def scale (literal : Literal) : Int :=
  literal.exponent.elim 0 Exponent.value - (fractionDigits literal.fraction).length

/-- Both readers give the number of the literal exactly: an integer of 64 bits, not
a negative zero, or a decimal whose digits and whose power of ten are numbers of 64
bits without rounding. -/
def Exact (literal : Literal) : Prop :=
  if literal.fraction = none ∧ literal.exponent = none then
    if literal.negative then
      0 < decimalValue literal.whole.val ∧ decimalValue literal.whole.val ≤ 2 ^ 63
    else decimalValue literal.whole.val < 2 ^ 64
  else decimalValue (digits literal) ≤ 2 ^ 53 ∧ -22 ≤ scale literal ∧ scale literal ≤ 22

instance (literal : Literal) : Decidable (Exact literal) :=
  inferInstanceAs (Decidable (ite _ (ite _ _ _) _))

/-- The items in the order of the text. -/
def itemSources : Items → List Source
  | .last _ item _ => [item]
  | .more _ item _ rest => item :: itemSources rest

/-- The values of the pairs in the order of the text. -/
def pairSources : Pairs → List Source
  | .last _ _ _ _ value _ => [value]
  | .more _ _ _ _ value _ rest => value :: pairSources rest

/-- The keys of the pairs, each with the blanks up to its colon. -/
def pairKeys : Pairs → List (List Piece × Blanks)
  | .last _ key beforeColon _ _ _ => [(key, beforeColon)]
  | .more _ key beforeColon _ _ _ rest => (key, beforeColon) :: pairKeys rest

/-- A value that is written as part of another one. -/
inductive Within (part : Source) : Source → Prop where
  | whole : Within part part
  | item {items : Items} {item : Source} (member : item ∈ itemSources items)
      (inside : Within part item) : Within part (.array items)
  | value {pairs : Pairs} {value : Source} (member : value ∈ pairSources pairs)
      (inside : Within part value) : Within part (.object pairs)

/-- A key that both readers take: without pairs, and with its colon at most 1024
bytes from its start. -/
def PortableKey (key : List Piece × Blanks) : Prop :=
  (∀ piece ∈ key.1, isPair piece = false) ∧ byteCount (quoted key.1 ++ key.2.val) ≤ 1024

/-- No part of a value is read in two ways, or by one reader only. -/
structure Portable (source : Source) : Prop where
  exact : ∀ literal n denotes, Within (.number literal n denotes) source → Exact literal
  unpaired : ∀ pieces, Within (.string pieces) source → ∀ piece ∈ pieces, isPair piece = false
  keys : ∀ pairs, Within (.object pairs) source → ∀ key ∈ pairKeys pairs, PortableKey key
  distinct : ∀ pairs, Within (.object pairs) source →
    ((pairKeys pairs).map fun key => spelt key.1).Nodup

/-- A document in one line of characters that YAML allows, with no tab before its
value, and with a portable value. -/
structure PortableDocument (document : Document) : Prop where
  allowed : ∀ c ∈ document.text, Yaml.isAllowed c = true
  unbroken : ∀ c ∈ document.text, Yaml.isBreak c = false
  untabbed : '\t' ∉ document.before.val
  portable : Portable document.source

/-- The parts of a part are parts of the whole. -/
theorem Portable.part {part source : Source} (portable : Portable source)
    (inside : ∀ sought, Within sought part → Within sought source) : Portable part where
  exact literal n denotes held := portable.exact literal n denotes (inside _ held)
  unpaired pieces held := portable.unpaired pieces (inside _ held)
  keys pairs held := portable.keys pairs (inside _ held)
  distinct pairs held := portable.distinct pairs (inside _ held)

theorem Portable.items {items : Items} (portable : Portable (.array items)) :
    ∀ item ∈ itemSources items, Portable item :=
  fun _ member => portable.part fun _ held => .item member held

theorem Portable.values {pairs : Pairs} (portable : Portable (.object pairs)) :
    ∀ value ∈ pairSources pairs, Portable value :=
  fun _ member => portable.part fun _ held => .value member held

theorem portable_number {literal : Literal} {n : Numeric.Number}
    {denotes : literal.number? = some n} (agreed : Exact literal) :
    Portable (.number literal n denotes) where
  exact _ _ _ held := by
    cases held
    exact agreed
  unpaired _ held := by cases held
  keys _ held := by cases held
  distinct _ held := by cases held

theorem portable_array {items : Items} (each : ∀ item ∈ itemSources items, Portable item) :
    Portable (.array items) where
  exact literal n denotes held := by
    cases held with
    | item member inside => exact (each _ member).exact literal n denotes inside
  unpaired pieces held := by
    cases held with
    | item member inside => exact (each _ member).unpaired pieces inside
  keys pairs held := by
    cases held with
    | item member inside => exact (each _ member).keys pairs inside
  distinct pairs held := by
    cases held with
    | item member inside => exact (each _ member).distinct pairs inside

theorem portable_object {pairs : Pairs} (each : ∀ value ∈ pairSources pairs, Portable value)
    (keys : ∀ key ∈ pairKeys pairs, PortableKey key)
    (distinct : ((pairKeys pairs).map fun key => spelt key.1).Nodup) :
    Portable (.object pairs) where
  exact literal n denotes held := by
    cases held with
    | value member inside => exact (each _ member).exact literal n denotes inside
  unpaired pieces held := by
    cases held with
    | value member inside => exact (each _ member).unpaired pieces inside
  keys other held := by
    cases held with
    | whole => exact keys
    | value member inside => exact (each _ member).keys other inside
  distinct other held := by
    cases held with
    | whole => exact distinct
    | value member inside => exact (each _ member).distinct other inside

/-- A string without pairs and without ends of lines is spelt as in YAML. -/
theorem shared_of_unbroken {pieces : List Piece}
    (unpaired : ∀ piece ∈ pieces, isPair piece = false)
    (unbroken : ∀ c ∈ quoted pieces, Yaml.isBreak c = false) : ∀ piece ∈ pieces, Shared piece := by
  intro piece member
  cases piece with
  | plain c bare =>
    apply unbroken c
    have written : c ∈ pieces.flatMap Piece.text :=
      List.mem_flatMap.mpr ⟨_, member, List.mem_singleton_self c⟩
    simp [quoted, written]
  | letter | unit => trivial
  | pair => cases unpaired _ member

end ValuePath.PortableJson
