import ValuePath.Json.Basic
import ValuePath.Json.Number

/-!
Reading JSON text. Every reader takes its form off the front of a text and
gives the rest; a text is a document if nothing but blanks is left.
-/
namespace ValuePath.Json

open Numeric (digitValue?)

/-- The blanks between the tokens of a document. -/
def isSeparator (c : Char) : Bool := c == ' ' || c == '\n' || c == '\t' || c == '\r'

def skipBlanks (text : List Char) : List Char := text.dropWhile isSeparator

/-- The number that four hexadecimal digits spell. -/
def hexUnit? (a b c d : Char) : Option Nat := do
  let a ← digitValue? 16 a
  let b ← digitValue? 16 b
  let c ← digitValue? 16 c
  let d ← digitValue? 16 d
  return ((a * 16 + b) * 16 + c) * 16 + d

/-- The character of an escape other than a numbered one. -/
def escapedChar? : Char → Option Char
  | '"' => some '"'
  | '\\' => some '\\'
  | '/' => some '/'
  | 'b' => some '\u0008'
  | 'f' => some '\u000C'
  | 'n' => some '\n'
  | 'r' => some '\r'
  | 't' => some '\t'
  | _ => none

def isHighHalf (unit : Nat) : Bool := 0xD800 ≤ unit && unit ≤ 0xDBFF

def isLowHalf (unit : Nat) : Bool := 0xDC00 ≤ unit && unit ≤ 0xDFFF

/-- The character that two halves of a pair stand for. -/
def pairedChar (high low : Nat) : Char :=
  Char.ofNat (0x10000 + (high - 0xD800) * 0x400 + (low - 0xDC00))

/-- Reads the characters of a string up to its closing quote. A half of a pair
that stands alone is refused, and so is a control character. -/
def readString? : List Char → Option (List Char × List Char)
  | '"' :: rest => some ([], rest)
  | '\\' :: 'u' :: a :: b :: c :: d :: '\\' :: 'u' :: e :: f :: g :: h :: rest =>
    match hexUnit? a b c d with
    | none => none
    | some unit =>
      if isHighHalf unit then
        match hexUnit? e f g h with
        | some low =>
          if isLowHalf low then
            (readString? rest).map fun (chars, after) => (pairedChar unit low :: chars, after)
          else none
        | none => none
      else if isLowHalf unit then none
      else
        (readString? ('\\' :: 'u' :: e :: f :: g :: h :: rest)).map fun (chars, after) =>
          (Char.ofNat unit :: chars, after)
  | '\\' :: 'u' :: a :: b :: c :: d :: rest =>
    match hexUnit? a b c d with
    | none => none
    | some unit =>
      if isHighHalf unit || isLowHalf unit then none
      else (readString? rest).map fun (chars, after) => (Char.ofNat unit :: chars, after)
  | '\\' :: escape :: rest =>
    match escapedChar? escape with
    | some c => (readString? rest).map fun (chars, after) => (c :: chars, after)
    | none => none
  | c :: rest =>
    if c.toNat < 0x20 || c == '\\' then none
    else (readString? rest).map fun (chars, after) => (c :: chars, after)
  | [] => none

/-- Takes a word off the front. -/
def readWord? (word text : List Char) : Option (List Char) :=
  if word.isPrefixOf text then some (text.drop word.length) else none

mutual
/-- Reads a value that may hold `depth` further levels of arrays and objects. -/
def readValue? : (fuel depth : Nat) → List Char → Option (Json × List Char)
  | 0, _, _ => none
  | fuel + 1, depth, text =>
    match skipBlanks text with
    | 'n' :: rest => (readWord? ['u', 'l', 'l'] rest).map (null, ·)
    | 't' :: rest => (readWord? ['r', 'u', 'e'] rest).map (boolean true, ·)
    | 'f' :: rest => (readWord? ['a', 'l', 's', 'e'] rest).map (boolean false, ·)
    | '"' :: rest => (readString? rest).map fun (chars, after) =>
        (string (String.ofList chars), after)
    | '[' :: rest =>
      match depth with
      | 0 => none
      | depth + 1 =>
        match skipBlanks rest with
        | ']' :: after => some (array [], after)
        | inside => (readItems? fuel depth inside).map fun (items, after) => (array items, after)
    | '\x7b' :: rest =>
      match depth with
      | 0 => none
      | depth + 1 =>
        match skipBlanks rest with
        | '\x7d' :: after => some (object [], after)
        | inside => (readEntries? fuel depth inside).map fun (entries, after) =>
            (ofEntries entries, after)
    | other => (readNumber? other).map fun (n, after) => (number n, after)

/-- Reads the items of an array, at least one, up to its closing bracket. -/
def readItems? : (fuel depth : Nat) → List Char → Option (List Json × List Char)
  | 0, _, _ => none
  | fuel + 1, depth, text =>
    match readValue? fuel depth text with
    | none => none
    | some (item, rest) =>
      match skipBlanks rest with
      | ',' :: more => (readItems? fuel depth more).map fun (items, after) => (item :: items, after)
      | ']' :: after => some ([item], after)
      | _ => none

/-- Reads the entries of an object, at least one, up to its closing brace. -/
def readEntries? : (fuel depth : Nat) → List Char → Option (List (String × Json) × List Char)
  | 0, _, _ => none
  | fuel + 1, depth, text =>
    match skipBlanks text with
    | '"' :: quoted =>
      match readString? quoted with
      | none => none
      | some (key, rest) =>
        match skipBlanks rest with
        | ':' :: afterColon =>
          match readValue? fuel depth afterColon with
          | none => none
          | some (value, afterValue) =>
            let entry := (String.ofList key, value)
            match skipBlanks afterValue with
            | ',' :: more =>
              (readEntries? fuel depth more).map fun (entries, after) => (entry :: entries, after)
            | '\x7d' :: after => some ([entry], after)
            | _ => none
        | _ => none
    | _ => none
end

/-- How many arrays and objects may stand inside each other. -/
def depthLimit : Nat := 127

/-- Reads a whole text. Every second call takes a character at least, so twice
the length is enough fuel. -/
def parse? (text : List Char) : Option Json :=
  match readValue? (2 * text.length + 2) depthLimit text with
  | some (value, rest) => if (skipBlanks rest).isEmpty then some value else none
  | none => none

end ValuePath.Json
