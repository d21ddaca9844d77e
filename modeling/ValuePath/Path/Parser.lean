import ValuePath.Path.Segment
import ValuePath.Numeric.Decimal
import ValuePath.Text.Blank

/-!
Reading paths. A text is cut at its dots, and every token becomes a field, a
call or an element access, with further element accesses for the index groups
at its end. Reading never fails: a token that has no other form is the name of
a field.
-/
namespace ValuePath

open Numeric (isDecimalDigit decimalValue)

def isAsciiLetter (c : Char) : Bool := ('a' ≤ c && c ≤ 'z') || ('A' ≤ c && c ≤ 'Z')

/-- A character that may begin the name of a method. -/
def isNameStart (c : Char) : Bool := isAsciiLetter c || c == '_'

/-- A character that may follow in the name of a method. -/
def isNamePart (c : Char) : Bool := isAsciiLetter c || isDecimalDigit c || c == '_'

namespace Segment

/-- The position that the digits of an index group stand for, if there are any
and the magnitude is representable. -/
def indexPosition (negative : Bool) (digits : List Char) : Option Int64 :=
  let magnitude := decimalValue digits
  if digits.isEmpty ∨ Nat.pow 2 63 ≤ magnitude then none
  else some (Int64.ofInt (if negative then -(magnitude : Int) else magnitude))

/-- The slot that a run of digits stands for. One that is not representable is
the greatest slot, which no argument list fills. -/
def slotNumber (digits : List Char) : UInt64 :=
  (min (decimalValue digits) (UInt64.size - 1)).toUInt64

/-- The sign of an index group and the text after it. -/
def readSign : List Char → Bool × List Char
  | '-' :: rest => (true, rest)
  | text => (false, text)

/-- Reads `[n]`, `[-n]` or brackets without digits from the front. -/
def readIndex? : List Char → Option (Option Int64 × List Char)
  | '[' :: body =>
    let (negative, text) := readSign body
    match text.dropWhile isDecimalDigit with
    | ']' :: rest => some (indexPosition negative (text.takeWhile isDecimalDigit), rest)
    | _ => none
  | _ => none

theorem length_readSign_le (text : List Char) : (readSign text).2.length ≤ text.length := by
  unfold readSign
  split
  · simp
  · exact Nat.le_refl _

/-- An index group takes at least its brackets off the text. -/
theorem length_lt_of_readIndex? {text rest : List Char} {position : Option Int64}
    (read : readIndex? text = some (position, rest)) : rest.length < text.length := by
  unfold readIndex? at read
  split at read
  · rename_i body
    have inside := length_readSign_le body
    have dropped := (List.dropWhile_sublist (l := (readSign body).2) isDecimalDigit).length_le
    simp only at read
    split at read
    · rename_i shape
      rw [shape] at dropped
      cases read
      simp only [List.length_cons] at dropped ⊢
      omega
    · cases read
  · cases read

/-- Reads index groups up to the end of the text, which must be nothing else. -/
def readIndices? (text : List Char) : Option (List (Option Int64)) :=
  match _found : readIndex? text with
  | none => none
  | some (position, []) => some [position]
  | some (position, next :: rest) => (readIndices? (next :: rest)).map (position :: ·)
termination_by text.length
decreasing_by exact length_lt_of_readIndex? _found

/-- Reads the slots of a call and the bracket that ends the text. Every slot
may have a comma after it. -/
def readSlots? (text : List Char) : Option (List UInt64) :=
  match text with
  | [')'] => some []
  | '{' :: body =>
    let digits := body.takeWhile isDecimalDigit
    match rest_eq : body.dropWhile isDecimalDigit with
    | '}' :: rest =>
      if digits.isEmpty then none
      else
        have shorter : rest.length < body.length := by
          have := (List.dropWhile_sublist (l := body) isDecimalDigit).length_le
          rw [rest_eq] at this
          exact this
        (readSlots? (if rest.head? = some ',' then rest.tail else rest)).map
          (slotNumber digits :: ·)
    | _ => none
  | _ => none
termination_by text.length
decreasing_by
  simp only [List.length_cons]
  split
  · simp only [List.length_tail]; omega
  · omega

/-- Reads a whole token as a call. -/
def readMethod? (token : List Char) : Option Segment :=
  match token with
  | first :: more =>
    if isNameStart first then
      match more.dropWhile isNamePart with
      | '(' :: body =>
        (readSlots? body).map
          (.method (String.ofList (first :: more.takeWhile isNamePart)))
      | _ => none
    else none
  | [] => none

/-- The segment of a token that is taken as a whole. -/
def ofToken (token : List Char) : Segment :=
  match readIndex? token with
  | some (position, []) => .index position
  | _ => (readMethod? token).getD (.field (String.ofList token))

end Segment

namespace Path

/-- The base of a token and the index groups at its end. The base holds no
brackets, and the groups run to the end of the token. -/
def splitIndices? (token : List Char) : Option (List Char × List (Option Int64)) :=
  let base := token.takeWhile (· != '[')
  if base.contains ']' then none
  else (Segment.readIndices? (token.dropWhile (· != '['))).map (base, ·)

/-- The segments of one token. A blank token has none. -/
def tokenSegments (token : List Char) : List Segment :=
  if Text.isBlankText token then []
  else
    match splitIndices? token with
    | some (base, positions) =>
      (if Text.isBlankText base then [] else [Segment.ofToken base]) ++ positions.map .index
    | none => [Segment.ofToken token]

/-- The path of tokens that are split already. -/
def ofTokens (tokens : List (List Char)) : Path := ⟨tokens.flatMap tokenSegments⟩

/-- The path of a dotted text. -/
def ofText (text : List Char) : Path := ofTokens (text.splitOn '.')

def parse (text : String) : Path := ofText text.toList

end Path
end ValuePath
