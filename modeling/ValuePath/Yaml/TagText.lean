import ValuePath.Yaml.FlowText
import ValuePath.Text.Utf8

/-!
The text of tags, anchors and directives. Escapes in a tag spell bytes, so tags are
read as bytes; a zero byte ends the tag that it stands in.
-/
namespace ValuePath.Yaml

open Numeric (readDigits?)

/-- A character of a tag. The flow indicators count only in tags between angle
brackets and in the prefixes of directives. -/
def isTagChar (withIndicators : Bool) (c : Char) : Bool :=
  isWordChar c ||
    [';', '/', '?', ':', '@', '&', '=', '+', '$', '.', '!', '~', '*', '\'', '(', ')'].contains c ||
    (withIndicators && [',', '[', ']'].contains c)

/-- The byte of an escape, a percent sign and two hexadecimal digits. -/
def escapedByte? : List Char → Option (Nat × List Char)
  | '%' :: a :: b :: rest => (readDigits? 16 [a, b]).map (·, rest)
  | _ => none

/-- How many bytes follow the first byte of a character. -/
def continuationCount? (byte : Nat) : Option Nat :=
  if byte < 0x80 then some 0
  else if byte / 32 = 6 then some 1
  else if byte / 16 = 14 then some 2
  else if byte / 8 = 30 then some 3
  else none

/-- Reads the bytes that continue a character. -/
def continuation? : (count : Nat) → List Char → Option (List Nat)
  | 0, _ => some []
  | count + 1, text =>
    match escapedByte? text with
    | some (byte, rest) =>
      if byte / 64 = 2 then (continuation? count rest).map (byte :: ·) else none
    | none => none

/-- The bytes of a run of escapes that has the form of a character. Whether there
is such a character is not asked. -/
def escapedChar? (text : List Char) : Option (List UInt8) := do
  let (byte, rest) ← escapedByte? text
  let count ← continuationCount? byte
  let bytes ← continuation? count rest
  return (byte :: bytes).map UInt8.ofNat

/-- Reads the bytes of a tag. -/
def tagBytes? (withIndicators : Bool) : (fuel : Nat) → Cursor → Option (List UInt8 × Cursor)
  | 0, _ => none
  | fuel + 1, cursor =>
    match cursor.rest with
    | [] => some ([], cursor)
    | c :: _ =>
      if c == '%' then
        match escapedChar? cursor.rest with
        | none => none
        | some bytes =>
          (tagBytes? withIndicators fuel (cursor.skip (3 * bytes.length))).map
            fun (more, after) => (bytes ++ more, after)
      else if isTagChar withIndicators c then
        (tagBytes? withIndicators fuel (cursor.skip 1)).map fun (more, after) =>
          (Text.encode (String.singleton c) ++ more, after)
      else some ([], cursor)

/-- The bytes in front of the first zero byte. -/
def beforeZero (bytes : List UInt8) : List UInt8 := bytes.takeWhile (· != 0)

/-- Reads the bytes of a tag, of which one at least has to be written. -/
def readTagBytes? (fuel : Nat) (withIndicators : Bool) (cursor : Cursor) :
    Option (List UInt8 × Cursor) :=
  match tagBytes? withIndicators fuel cursor with
  | some (bytes, after) => if bytes.isEmpty then none else some (beforeZero bytes, after)
  | none => none

/-- A tag as it is written: a handle, and a suffix that the handle's prefix is
put in front of. Without a handle the suffix is the whole tag. -/
structure TagText where
  handle : String
  suffix : List UInt8
  deriving DecidableEq

namespace TagText

/-- Whether a tag may end here. -/
def atTagEnd (flow : Bool) (cursor : Cursor) : Bool :=
  (flow && cursor.sees ',') || atGap cursor.rest

/-- Reads a tag from its exclamation mark on. -/
def read? (fuel : Nat) (flow : Bool) (cursor : Cursor) : Option (TagText × Cursor) := do
  let (tag, after) ←
    if (cursor.skip 1).sees '<' then
      match readTagBytes? fuel true (cursor.skip 2) with
      | some (suffix, after) =>
        if after.sees '>' then some (⟨"", suffix⟩, after.skip 1) else none
      | none => none
    else
      let (word, afterWord) := (cursor.skip 1).takeWhile isWordChar
      if afterWord.sees '!' then
        match readTagBytes? fuel false (afterWord.skip 1) with
        | some (suffix, after) => some (⟨String.ofList ('!' :: (word ++ ['!'])), suffix⟩, after)
        | none => none
      else
        match tagBytes? false fuel afterWord with
        | some (more, after) =>
          let suffix := beforeZero (Text.encode (String.ofList word) ++ more)
          if suffix.isEmpty then some (⟨"", Text.encode "!"⟩, after)
          else some (⟨"!", suffix⟩, after)
        | none => none
  if atTagEnd flow after then return (tag, after) else none

end TagText

/-- Reads the name of an anchor after its indicator. -/
def readAnchor? (cursor : Cursor) : Option (String × Cursor) :=
  let (name, after) := (cursor.skip 1).takeWhile isWordChar
  let ends := atGap after.rest ||
    after.rest.head?.any fun c => ['?', ':', ',', ']', '}', '%', '@', '\x60'].contains c
  if name.isEmpty || !ends then none else some (String.ofList name, after)

/-- A line that says how the document after it is to be read. -/
inductive Directive where
  | version (major minor : Nat)
  | tagPrefix (handle : String) (expansion : List UInt8)
  deriving DecidableEq

namespace Directive

/-- Reads a number of at most nine digits. -/
def versionNumber? (cursor : Cursor) : Option (Nat × Cursor) :=
  let (digits, after) := cursor.takeWhile isDecimal
  if digits.isEmpty || 9 < digits.length then none
  else some (Numeric.decimalValue digits, after)

def readVersion? (cursor : Cursor) : Option (Directive × Cursor) := do
  let (major, afterMajor) ← versionNumber? (cursor.skipWhile isSpaceOrTab)
  if afterMajor.sees '.' then
    let (minor, after) ← versionNumber? (afterMajor.skip 1)
    return (version major minor, after)
  else none

def readPrefix? (fuel : Nat) (cursor : Cursor) : Option (Directive × Cursor) := do
  let start := cursor.skipWhile isSpaceOrTab
  if !start.sees '!' then none
  else
    let (word, afterWord) := (start.skip 1).takeWhile isWordChar
    let closed := afterWord.sees '!'
    if !closed && !word.isEmpty then none
    else
      let handle := '!' :: (word ++ if closed then ['!'] else [])
      let afterHandle := if closed then afterWord.skip 1 else afterWord
      if !(afterHandle.rest.head?.any isSpaceOrTab) then none
      else
        let (expansion, after) ← readTagBytes? fuel true (afterHandle.skipWhile isSpaceOrTab)
        if atGap after.rest then return (tagPrefix (String.ofList handle) expansion, after)
        else none

/-- Reads a directive from its percent sign to the end of its line. -/
def read? (fuel : Nat) (cursor : Cursor) : Option (Directive × Cursor) := do
  let (name, afterName) := (cursor.skip 1).takeWhile isWordChar
  if !atGap afterName.rest then none
  else
    let (directive, after) ←
      if name = ['Y', 'A', 'M', 'L'] then readVersion? afterName
      else if name = ['T', 'A', 'G'] then readPrefix? fuel afterName
      else none
    let lineEnd ← after.skipToLineEnd?
    return (directive, lineEnd.skipBreak)

end Directive
end ValuePath.Yaml
