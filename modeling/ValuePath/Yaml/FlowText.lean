import ValuePath.Yaml.Cursor
import ValuePath.Numeric.Decimal

/-!
The text of scalars that are written plain or in quotes. Words are parted by
gaps; a gap within a line stands for itself, a gap with one line break stands
for a blank, and one with more breaks for all but the first of them.
-/
namespace ValuePath.Yaml

/-- What stands between two words: blanks, or line breaks with the blanks
around them left out. -/
structure Gap where
  blanks : List Char
  /-- Whether a line has ended. -/
  broken : Bool
  firstBreak : Option Char
  moreBreaks : List Char

namespace Gap

def none : Gap := ⟨[], false, Option.none, []⟩

/-- The gap that an escaped line break begins. -/
def escapedBreak : Gap := ⟨[], true, Option.none, []⟩

/-- The text that a gap stands for. -/
def text (gap : Gap) : List Char :=
  if gap.broken then
    match gap.firstBreak with
    | some '\n' => if gap.moreBreaks.isEmpty then [' '] else gap.moreBreaks
    | some c => c :: gap.moreBreaks
    | Option.none => gap.moreBreaks
  else gap.blanks

/-- Adds a line break to a gap. -/
def addBreak (gap : Gap) (c : Char) : Gap :=
  if gap.broken then { gap with moreBreaks := gap.moreBreaks ++ [breakText c] }
  else ⟨[], true, some (breakText c), []⟩

/-- Adds a blank to a gap; after a line break it does not count. -/
def addBlank (gap : Gap) (c : Char) : Gap :=
  if gap.broken then gap else { gap with blanks := gap.blanks ++ [c] }

/-- Reads blanks and line breaks. In the part of a line before column `inner`,
a tab is no indentation and is refused. -/
def read? (inner : Nat) : Gap → Mark → List Char → Option (Gap × Cursor)
  | gap, mark, [] => some (gap, ⟨mark, []⟩)
  | gap, mark, '\r' :: '\n' :: rest => read? inner (gap.addBreak '\n') (mark.nextLine 2) rest
  | gap, mark, c :: rest =>
    if isBreak c then read? inner (gap.addBreak c) (mark.nextLine c.utf8Size) rest
    else if isSpaceOrTab c then
      if gap.broken && c == '\t' && mark.column < inner then Option.none
      else read? inner (gap.addBlank c) (mark.next c) rest
    else some (gap, ⟨mark, c :: rest⟩)

end Gap

/-- Reads a word of a plain scalar, up to a gap or an indicator that ends it. A
colon that touches a flow indicator is refused. -/
def plainWord? (flow : Bool) : List Char → Option (List Char)
  | [] => some []
  | c :: rest =>
    let next (test : Char → Bool) : Bool := rest.head?.any test
    if isGap c then some []
    else if flow && c == ':' && next (fun d => [',', '?', '[', ']', '{', '}'].contains d) then none
    else if c == ':' && atGap rest then some []
    else if flow && [',', '[', ']', '{', '}'].contains c then some []
    else (plainWord? flow rest).map (c :: ·)

/-- Reads the words of a plain scalar after a gap. The continuation has to stand
at column `inner` at least, unless the scalar is inside brackets. Gives the text,
the cursor, and whether a line has ended after the last word. -/
def plainWords? (flow : Bool) (inner : Nat) : (fuel : Nat) → Gap → Cursor →
    Option (List Char × Cursor × Bool)
  | 0, _, _ => none
  | fuel + 1, gap, cursor =>
    if cursor.seesAnyMarker || cursor.sees '#' then some ([], cursor, gap.broken)
    else
      match plainWord? flow cursor.rest with
      | none => none
      | some word =>
        let after := cursor.skip word.length
        let front := if word.isEmpty then [] else gap.text ++ word
        let pending := if word.isEmpty then gap else Gap.none
        match after.rest with
        | [] => some (front, after, pending.broken)
        | c :: _ =>
          if !isGap c then some (front, after, pending.broken)
          else
            match Gap.read? inner pending after.mark after.rest with
            | none => none
            | some (nextGap, next) =>
              if !flow && next.mark.column < inner then some (front, next, nextGap.broken)
              else
                (plainWords? flow inner fuel nextGap next).map fun (text, rest) =>
                  (front ++ text, rest)

/-- Reads a plain scalar. It takes fewer rounds than there are characters. -/
def readPlain? (fuel : Nat) (flow : Bool) (inner : Nat) (cursor : Cursor) :
    Option (List Char × Cursor × Bool) :=
  plainWords? flow inner fuel Gap.none cursor

/-- The character of an escape that is one letter. -/
def escapeChar? : Char → Option Char
  | '0' => some '\u0000'
  | 'a' => some '\u0007'
  | 'b' => some '\u0008'
  | 't' | '\t' => some '\t'
  | 'n' => some '\n'
  | 'v' => some '\u000B'
  | 'f' => some '\u000C'
  | 'r' => some '\r'
  | 'e' => some '\u001B'
  | ' ' => some ' '
  | '"' => some '"'
  | '/' => some '/'
  | '\\' => some '\\'
  | 'N' => some '\u0085'
  | '_' => some '\u00A0'
  | 'L' => some '\u2028'
  | 'P' => some '\u2029'
  | _ => none

/-- The count of hexadecimal digits of a numbered escape. -/
def escapeWidth? : Char → Option Nat
  | 'x' => some 2
  | 'u' => some 4
  | 'U' => some 8
  | _ => none

/-- The character with this code, unless it is half of a pair or out of range. -/
def scalarChar? (code : Nat) : Option Char :=
  if code < 0xD800 ∨ (0xDFFF < code ∧ code ≤ 0x10FFFF) then some (Char.ofNat code) else none

/-- What ends a word within quotes. -/
inductive WordEnd where
  | gap
  | escapedBreak
  deriving DecidableEq

/-- Reads a word in single quotes up to a gap or the closing quote. -/
def singleWord : Mark → List Char → List Char × Cursor
  | mark, [] => ([], ⟨mark, []⟩)
  | mark, '\'' :: '\'' :: rest =>
    let (word, cursor) := singleWord (mark.forward ['\'', '\'']) rest
    ('\'' :: word, cursor)
  | mark, c :: rest =>
    if isGap c || c == '\'' then ([], ⟨mark, c :: rest⟩)
    else
      let (word, cursor) := singleWord (mark.next c) rest
      (c :: word, cursor)

/-- Reads a word in double quotes up to a gap, an escaped line break, which is
left out, or the closing quote. -/
def doubleWord? : (fuel : Nat) → Cursor → Option (List Char × Cursor × WordEnd)
  | 0, _ => none
  | fuel + 1, cursor =>
    match cursor.rest with
    | [] => some ([], cursor, .gap)
    | '\\' :: '\r' :: _ | '\\' :: '\n' :: _ | '\\' :: '\u0085' :: _ | '\\' :: '\u2028' :: _
    | '\\' :: '\u2029' :: _ => some ([], (cursor.skip 1).skipBreak, .escapedBreak)
    | '\\' :: letter :: rest =>
      match escapeWidth? letter with
      | some width =>
        let digits := rest.take width
        if digits.length < width then none
        else
          match (Numeric.readDigits? 16 digits).bind scalarChar? with
          | none => none
          | some c =>
            (doubleWord? fuel (cursor.skip (2 + width))).map fun (word, after) => (c :: word, after)
      | none =>
        match escapeChar? letter with
        | none => none
        | some c => (doubleWord? fuel (cursor.skip 2)).map fun (word, after) => (c :: word, after)
    | ['\\'] => none
    | c :: _ =>
      if isGap c || c == '"' then some ([], cursor, .gap)
      else (doubleWord? fuel (cursor.skip 1)).map fun (word, after) => (c :: word, after)

/-- Reads the rest of a scalar in quotes, up to the closing quote. -/
def quotedWords? (single : Bool) : (fuel : Nat) → Cursor → Option (List Char × Cursor)
  | 0, _ => none
  | fuel + 1, cursor =>
    if cursor.seesAnyMarker || cursor.rest.isEmpty then none
    else
      let word? :=
        if single then
          let (word, after) := singleWord cursor.mark cursor.rest
          some (word, after, WordEnd.gap)
        else doubleWord? (fuel + 1) cursor
      match word? with
      | none => none
      | some (word, after, ending) =>
        if ending == .gap && after.sees (if single then '\'' else '"') then
          some (word, after.skip 1)
        else
          let gap := if ending == .escapedBreak then Gap.escapedBreak else Gap.none
          match Gap.read? 0 gap after.mark after.rest with
          | none => none
          | some (nextGap, next) =>
            (quotedWords? single fuel next).map fun (text, rest) =>
              (word ++ nextGap.text ++ text, rest)

/-- Reads a scalar in quotes from its opening quote on. -/
def readQuoted? (fuel : Nat) (single : Bool) (cursor : Cursor) : Option (List Char × Cursor) :=
  quotedWords? single fuel (cursor.skip 1)

end ValuePath.Yaml
