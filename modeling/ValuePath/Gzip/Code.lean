import ValuePath.Gzip.Bits

/-!
Canonical prefix codes. The lengths of the code words determine the code: words
of one length are in the order of their symbols, and shorter words come first.
-/
namespace ValuePath.Gzip

/-- A code: the symbols whose words have one bit, two bits and so on. -/
structure Code where
  levels : List (List Nat)

namespace Code

/-- The greatest length of a word. -/
def maxLength : Nat := 15

/-- The share of all words that begin with a word of the code, in words of the
greatest length. -/
def coverage : List Nat → Nat
  | [] => 0
  | length :: rest =>
    (if length = 0 then 0 else Nat.pow 2 (maxLength - length)) + coverage rest

/-- The code with these lengths of words, zero for symbols without a word. A code
of more than one symbol has to use every word there is. -/
def ofLengths? (lengths : List Nat) : Option Code :=
  let used := (lengths.filter (· ≠ 0)).length
  if lengths.all (· ≤ maxLength) && (coverage lengths == Nat.pow 2 maxLength || used ≤ 1) then
    some ⟨(List.range maxLength).map fun level =>
      (lengths.zipIdx.filter fun entry => entry.1 = level + 1).map Prod.snd⟩
  else none

/-- Reads a word bit by bit; `first` is the first word of the length reached. -/
def decodeFrom : List (List Nat) → (word first : Nat) → List Bool → Option (Nat × List Bool)
  | [], _, _, _ | _, _, _, [] => none
  | level :: levels, word, first, bit :: rest =>
    let extended := word + bit.toNat
    if extended < first + level.length then
      (level[extended - first]?).map (·, rest)
    else decodeFrom levels (2 * extended) (2 * (first + level.length)) rest

/-- Takes a symbol off the front. -/
def decode? (code : Code) (bits : List Bool) : Option (Nat × List Bool) :=
  decodeFrom code.levels 0 0 bits

end Code
end ValuePath.Gzip
