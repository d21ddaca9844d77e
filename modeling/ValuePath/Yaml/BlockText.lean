import ValuePath.Yaml.Cursor

/-!
The text of block scalars. A header says how the text is indented and what
becomes of the line breaks at its end; the lines follow, each one indented by
as many blanks as the first that is not empty.
-/
namespace ValuePath.Yaml

/-- What becomes of the line breaks at the end of a block. -/
inductive Chomping where
  /-- None is kept. -/
  | strip
  /-- One is kept. -/
  | clip
  /-- All are kept. -/
  | keep
  deriving DecidableEq

/-- The header of a block scalar. -/
structure BlockHeader where
  chomping : Chomping
  /-- How far the text is indented beyond its parent, if the header says so. -/
  increment : Option Nat

namespace BlockHeader

def readChomping (cursor : Cursor) : Option Chomping × Cursor :=
  match cursor.peek? with
  | some '+' => (some .keep, cursor.skip 1)
  | some '-' => (some .strip, cursor.skip 1)
  | _ => (none, cursor)

/-- Reads a digit other than zero, if a digit follows. -/
def readIncrement? (cursor : Cursor) : Option (Option Nat × Cursor) :=
  match cursor.peek? with
  | some c =>
    if isDecimal c then
      if c = '0' then none else some (some (c.toNat - '0'.toNat), cursor.skip 1)
    else some (none, cursor)
  | none => some (none, cursor)

/-- Reads the header after its indicator, in either order of its parts, and the
end of the line. -/
def read? (cursor : Cursor) : Option (BlockHeader × Cursor) := do
  let (before, afterBefore) := readChomping cursor
  let (increment, afterIncrement) ← readIncrement? afterBefore
  let (chomping, afterHeader) :=
    match before, increment with
    | none, some _ => readChomping afterIncrement
    | _, _ => (before, afterIncrement)
  let lineEnd ← afterHeader.skipToLineEnd?
  return (⟨chomping.getD .clip, increment⟩, lineEnd.skipBreak)

end BlockHeader

/-- Reads empty lines and the indentation of the next line. While the indentation
is not known (zero), all blanks count; `widest` is the widest one so far. A tab
in the place of indentation is refused. -/
def blockBreaks? (indent : Nat) : (widest : Nat) → (breaks : List Char) → Mark → List Char →
    Option (Nat × List Char × Cursor)
  | widest, breaks, mark, [] => some (max widest mark.column, breaks, ⟨mark, []⟩)
  | widest, breaks, mark, '\r' :: '\n' :: rest =>
    blockBreaks? indent (max widest mark.column) (breaks ++ ['\n']) (mark.nextLine 2) rest
  | widest, breaks, mark, c :: rest =>
    let indenting := indent = 0 ∨ mark.column < indent
    if indenting ∧ c = ' ' then blockBreaks? indent widest breaks (mark.next c) rest
    else if indenting ∧ c = '\t' then none
    else if isBreak c then
      blockBreaks? indent (max widest mark.column) (breaks ++ [breakText c])
        (mark.nextLine c.utf8Size) rest
    else some (max widest mark.column, breaks, ⟨mark, c :: rest⟩)

/-- How the line before joins the next one: the break at its end, whether it
begins with a blank, and the empty lines after it. -/
structure BlockJoint where
  lineBreak : Option Char
  blankStart : Bool
  emptyLines : List Char

namespace BlockJoint

/-- The text between two lines. Where lines are folded, a break between two
lines that do not begin with blanks is a blank, or nothing if empty lines follow. -/
def text (joint : BlockJoint) (literal nextBlank : Bool) : List Char :=
  if !literal && joint.lineBreak == some '\n' && !joint.blankStart && !nextBlank then
    (if joint.emptyLines.isEmpty then [' '] else []) ++ joint.emptyLines
  else joint.lineBreak.toList ++ joint.emptyLines

/-- The text after the last line. -/
def tail (joint : BlockJoint) : Chomping → List Char
  | .strip => []
  | .clip => joint.lineBreak.toList
  | .keep => joint.lineBreak.toList ++ joint.emptyLines

end BlockJoint

/-- The line break that stands here, as text. -/
def breakHere (cursor : Cursor) : Option Char :=
  match cursor.rest with
  | '\r' :: '\n' :: _ => some '\n'
  | c :: _ => if isBreak c then some (breakText c) else none
  | [] => none

/-- Reads the lines of a block that stand at its indentation. -/
def blockLines? (literal : Bool) (chomping : Chomping) (indent : Nat) : (fuel : Nat) →
    BlockJoint → Cursor → Option (List Char × Cursor)
  | 0, _, _ => none
  | fuel + 1, joint, cursor =>
    if cursor.mark.column = indent ∧ !cursor.rest.isEmpty then
      let blank := cursor.rest.head?.any isSpaceOrTab
      let (line, lineEnd) := cursor.takeWhile (!isBreak ·)
      let next := lineEnd.skipBreak
      match blockBreaks? indent 0 [] next.mark next.rest with
      | none => none
      | some (_, emptyLines, following) =>
        let joint' : BlockJoint := ⟨breakHere lineEnd, blank, emptyLines⟩
        (blockLines? literal chomping indent fuel joint' following).map fun (text, rest) =>
          (joint.text literal blank ++ line ++ text, rest)
    else some (joint.tail chomping, cursor)

/-- Reads a block scalar after its indicator. `parent` is the indentation around
it, -1 at the top of a document. -/
def readBlock? (fuel : Nat) (literal : Bool) (parent : Int) (cursor : Cursor) :
    Option (List Char × Cursor) := do
  let (header, body) ← BlockHeader.read? cursor
  let given : Nat := match header.increment with
    | some increment => (max parent 0).toNat + increment
    | none => 0
  let (widest, emptyLines, content) ← blockBreaks? given 0 [] body.mark body.rest
  let indent := if given = 0 then max widest (max (parent + 1) 1).toNat else given
  blockLines? literal header.chomping indent fuel ⟨none, false, emptyLines⟩ content

end ValuePath.Yaml
