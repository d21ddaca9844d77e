import ValuePath.Yaml.Characters

/-!
A place in a text: how far it is from the start, in which line and column, and
what text follows.
-/
namespace ValuePath.Yaml

/-- A position. Columns start anew after every line break. -/
structure Mark where
  /-- How many bytes of the text precede. -/
  index : Nat
  line : Nat
  /-- How many characters of the line precede. -/
  column : Nat
  deriving DecidableEq

namespace Mark

def start : Mark := ⟨0, 0, 0⟩

/-- The position after a character that does not end its line. -/
def next (mark : Mark) (c : Char) : Mark :=
  { mark with index := mark.index + c.utf8Size, column := mark.column + 1 }

/-- The position after some characters of one line. -/
def forward (mark : Mark) (chars : List Char) : Mark := chars.foldl next mark

/-- The position after a line break of this many bytes. -/
def nextLine (mark : Mark) (size : Nat) : Mark := ⟨mark.index + size, mark.line + 1, 0⟩

end Mark

/-- A position with the text that follows it. -/
structure Cursor where
  mark : Mark
  rest : List Char

namespace Cursor

/-- The cursor after some characters of one line. -/
def skip (cursor : Cursor) (count : Nat) : Cursor :=
  ⟨cursor.mark.forward (cursor.rest.take count), cursor.rest.drop count⟩

/-- Takes the characters of one line that satisfy a test. -/
def takeWhile (test : Char → Bool) (cursor : Cursor) : List Char × Cursor :=
  let taken := cursor.rest.takeWhile test
  (taken, cursor.skip taken.length)

/-- The cursor after the characters of one line that satisfy a test. -/
def skipWhile (test : Char → Bool) (cursor : Cursor) : Cursor := (cursor.takeWhile test).2

/-- The cursor after a line break, if one stands here. -/
def skipBreak (cursor : Cursor) : Cursor :=
  match cursor.rest with
  | '\r' :: '\n' :: rest => ⟨cursor.mark.nextLine 2, rest⟩
  | c :: rest => if isBreak c then ⟨cursor.mark.nextLine c.utf8Size, rest⟩ else cursor
  | [] => cursor

def peek? (cursor : Cursor) : Option Char := cursor.rest.head?

/-- Whether this character follows. -/
def sees (cursor : Cursor) (c : Char) : Bool := cursor.rest.head? == some c

/-- Whether a document marker made of this character stands here, at the start
of a line and with a gap after it. -/
def seesMarker (cursor : Cursor) (c : Char) : Bool :=
  cursor.mark.column == 0 && cursor.rest.take 3 == [c, c, c] && atGap (cursor.rest.drop 3)

def seesAnyMarker (cursor : Cursor) : Bool := cursor.seesMarker '-' || cursor.seesMarker '.'

/-- The cursor at the end of a line that may still hold blanks and a comment. -/
def skipToLineEnd? (cursor : Cursor) : Option Cursor :=
  let afterBlanks := cursor.skipWhile isSpaceOrTab
  let atEnd :=
    if afterBlanks.sees '#' then afterBlanks.skipWhile (!isBreak ·) else afterBlanks
  if atLineEnd atEnd.rest then some atEnd else none

end Cursor

/-- What a line break stands for in the text of a scalar: a line feed, but for
the two separators, which stand for themselves. -/
def breakText (c : Char) : Char := if c == '\u2028' || c == '\u2029' then c else '\n'

end ValuePath.Yaml
