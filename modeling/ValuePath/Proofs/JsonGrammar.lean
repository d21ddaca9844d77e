import ValuePath.Json.Reader

/-! The grammar of JSON documents, apart from any reader: documents as syntax
trees that keep every character of their text, the blanks between tokens, the
spelling of each character of a string and the parts of each number. -/
namespace ValuePath.JsonGrammar
open Json
open Numeric (Number isDecimalDigit decimalValue)

/-- The blanks between two tokens. -/
abbrev Blanks := {blanks : List Char // ∀ c ∈ blanks, isSeparator c = true}

/-- How a string spells one of its characters. -/
inductive Piece where
  | plain (c : Char) (bare : 0x20 ≤ c.toNat ∧ c ≠ '"' ∧ c ≠ '\\')
  | letter (letter c : Char) (escaped : escapedChar? letter = some c)
  /-- By its number. -/
  | unit (a b c d : Char) (code : Nat) (spelt : hexUnit? a b c d = some code)
      (whole : isHighHalf code = false ∧ isLowHalf code = false)
  /-- By the two halves of a pair. -/
  | pair (a b c d e f g h : Char) (high low : Nat)
      (spelt : hexUnit? a b c d = some high ∧ hexUnit? e f g h = some low)
      (halves : isHighHalf high = true ∧ isLowHalf low = true)

namespace Piece

def text : Piece → List Char
  | plain c _ => [c]
  | letter l _ _ => ['\\', l]
  | unit a b c d _ _ _ => ['\\', 'u', a, b, c, d]
  | pair a b c d e f g h _ _ _ _ => ['\\', 'u', a, b, c, d, '\\', 'u', e, f, g, h]

/-- The character that is spelt. -/
def char : Piece → Char
  | plain c _ => c
  | letter _ c _ => c
  | unit _ _ _ _ code _ _ => Char.ofNat code
  | pair _ _ _ _ _ _ _ _ high low _ _ => pairedChar high low

end Piece

/-- A run of decimal digits, at least one. -/
abbrev Digits := {digits : List Char // digits ≠ [] ∧ ∀ c ∈ digits, isDecimalDigit c = true}

/-- The exponent of a number. -/
structure Exponent where
  letter : Char
  letter_eq : letter = 'e' ∨ letter = 'E'
  sign : Option Char
  sign_eq : ∀ c ∈ sign, c = '+' ∨ c = '-'
  digits : Digits

namespace Exponent

def text (exponent : Exponent) : List Char :=
  exponent.letter :: (exponent.sign.toList ++ exponent.digits.val)

def negative (exponent : Exponent) : Bool := exponent.sign == some '-'

/-- The power of ten. -/
def value (exponent : Exponent) : Int :=
  if exponent.negative then -(decimalValue exponent.digits.val : Int)
  else (decimalValue exponent.digits.val : Int)

end Exponent

/-- The digits of a fraction, if there is one. -/
def fractionDigits : Option Digits → List Char
  | none => []
  | some digits => digits.val

def fractionText : Option Digits → List Char
  | none => []
  | some digits => '.' :: digits.val

def exponentText : Option Exponent → List Char
  | none => []
  | some exponent => exponent.text

/-- A number as it is written. -/
structure Literal where
  negative : Bool
  whole : Digits
  /-- There is no needless zero. -/
  unpadded : whole.val.head? = some '0' → whole.val = ['0']
  fraction : Option Digits
  exponent : Option Exponent

namespace Literal

def text (literal : Literal) : List Char :=
  (if literal.negative then ['-'] else []) ++
    (literal.whole.val ++ (fractionText literal.fraction ++ exponentText literal.exponent))

/-- The number of a literal, unless it is too large. -/
def number? (literal : Literal) : Option Number :=
  let (leading, dropped) := accumulate 0 literal.whole.val
  if dropped.isEmpty && literal.fraction.isNone && literal.exponent.isNone then
    some (ofInteger literal.negative leading)
  else
    let (significand, unused) := accumulate leading (fractionDigits literal.fraction)
    ofParts literal.negative significand
      ((dropped.length : Int) - ((fractionDigits literal.fraction).length - unused.length : Nat) +
        literal.exponent.elim 0 Exponent.value)

end Literal

mutual
/-- A value as it is written. -/
inductive Source where
  | null
  | boolean (value : Bool)
  | number (literal : Literal) (n : Number) (denotes : literal.number? = some n)
  | string (pieces : List Piece)
  | emptyArray (inside : Blanks)
  | array (items : Items)
  | emptyObject (inside : Blanks)
  | object (pairs : Pairs)

/-- The items of an array, each between blanks. -/
inductive Items where
  | last (before : Blanks) (item : Source) (after : Blanks)
  | more (before : Blanks) (item : Source) (after : Blanks) (rest : Items)

/-- The pairs of an object, with blanks around each key and each value. -/
inductive Pairs where
  | last (before : Blanks) (key : List Piece) (beforeColon afterColon : Blanks) (value : Source)
      (after : Blanks)
  | more (before : Blanks) (key : List Piece) (beforeColon afterColon : Blanks) (value : Source)
      (after : Blanks) (rest : Pairs)
end

/-- A string in its quotes. -/
def quoted (pieces : List Piece) : List Char := '"' :: (pieces.flatMap Piece.text ++ ['"'])

/-- The characters of a string. -/
def spelt (pieces : List Piece) : String := String.ofList (pieces.map Piece.char)

mutual
def Source.text : Source → List Char
  | .null => ['n', 'u', 'l', 'l']
  | .boolean true => ['t', 'r', 'u', 'e']
  | .boolean false => ['f', 'a', 'l', 's', 'e']
  | .number literal .. => literal.text
  | .string pieces => quoted pieces
  | .emptyArray inside => '[' :: (inside.val ++ [']'])
  | .array items => '[' :: (items.text ++ [']'])
  | .emptyObject inside => '\x7b' :: (inside.val ++ ['\x7d'])
  | .object pairs => '\x7b' :: (pairs.text ++ ['\x7d'])

def Items.text : Items → List Char
  | .last before item after => before.val ++ (item.text ++ after.val)
  | .more before item after rest => before.val ++ (item.text ++ (after.val ++ ',' :: rest.text))

def Pairs.text : Pairs → List Char
  | .last before key beforeColon afterColon value after =>
    before.val ++ (quoted key ++ (beforeColon.val ++ ':' :: (afterColon.val ++
      (value.text ++ after.val))))
  | .more before key beforeColon afterColon value after rest =>
    before.val ++ (quoted key ++ (beforeColon.val ++ ':' :: (afterColon.val ++
      (value.text ++ (after.val ++ ',' :: rest.text)))))
end

mutual
/-- The document that is written. -/
def Source.meaning : Source → Json
  | .null => .null
  | .boolean value => .boolean value
  | .number _ n _ => .number n
  | .string pieces => .string (spelt pieces)
  | .emptyArray _ => .array []
  | .array items => .array items.meanings
  | .emptyObject _ => .object []
  | .object pairs => ofEntries pairs.meanings

def Items.meanings : Items → List Json
  | .last _ item _ => [item.meaning]
  | .more _ item _ rest => item.meaning :: rest.meanings

def Pairs.meanings : Pairs → List (String × Json)
  | .last _ key _ _ value _ => [(spelt key, value.meaning)]
  | .more _ key _ _ value _ rest => (spelt key, value.meaning) :: rest.meanings
end

mutual
/-- How many arrays and objects stand inside each other. -/
def Source.depth : Source → Nat
  | .emptyArray _ | .emptyObject _ => 1
  | .array items => items.depth + 1
  | .object pairs => pairs.depth + 1
  | _ => 0

def Items.depth : Items → Nat
  | .last _ item _ => item.depth
  | .more _ item _ rest => max item.depth rest.depth

def Pairs.depth : Pairs → Nat
  | .last _ _ _ _ value _ => value.depth
  | .more _ _ _ _ value _ rest => max value.depth rest.depth
end

/-- A document with the blanks around it. -/
structure Document where
  before : Blanks
  source : Source
  after : Blanks

def Document.text (document : Document) : List Char :=
  document.before.val ++ (document.source.text ++ document.after.val)

/-- What ends a number: the end of the text, a blank, or what parts the values
of arrays and objects. -/
def Ends (rest : List Char) : Prop :=
  ∀ c ∈ rest.head?, isSeparator c = true ∨ c = ',' ∨ c = ']' ∨ c = '\x7d'

/-- Blanks together with those behind them. -/
def Blanks.append (outer inner : Blanks) : Blanks :=
  ⟨outer.val ++ inner.val, fun c member => (List.mem_append.mp member).elim
    (outer.property c) (inner.property c)⟩

/-- The items behind further blanks. -/
def Items.behind (blanks : Blanks) : Items → Items
  | .last before item after => .last (blanks.append before) item after
  | .more before item after rest => .more (blanks.append before) item after rest

/-- The pairs behind further blanks. -/
def Pairs.behind (blanks : Blanks) : Pairs → Pairs
  | .last before key beforeColon afterColon value after =>
    .last (blanks.append before) key beforeColon afterColon value after
  | .more before key beforeColon afterColon value after rest =>
    .more (blanks.append before) key beforeColon afterColon value after rest

end ValuePath.JsonGrammar
