import ValuePath.Document.Tree
import ValuePath.Numeric.Layout

/-!
Writing trees as JSON text, either without any blanks or with one item to a
line, indented by two blanks for each level.
-/
namespace ValuePath.Json

open Numeric (Layout Binary32 Binary64)

/-- Numbers of 64 bits are positional from a hundred thousandth on and below
ten to the sixteenth. What is not a finite number has no form of its own. -/
def doubleLayout : Layout where
  positionalFrom := -5
  positionalTo := 15
  exponentPlus := true
  tie := .even
  nan := "null"
  infinity := "null"
  negativeInfinity := "null"

/-- Numbers of 32 bits have their positional range moved down. -/
def singleLayout : Layout :=
  { doubleLayout with positionalFrom := -6, positionalTo := 12 }

/-- One character of a string. Only quotes, backslashes and controls are escaped. -/
def escapeChar (c : Char) : List Char :=
  if c = '"' then ['\\', '"']
  else if c = '\\' then ['\\', '\\']
  else if c = '\u0008' then ['\\', 'b']
  else if c = '\u000C' then ['\\', 'f']
  else if c = '\n' then ['\\', 'n']
  else if c = '\r' then ['\\', 'r']
  else if c = '\t' then ['\\', 't']
  else if c.toNat < 0x20 then
    ['\\', 'u', '0', '0', Nat.digitChar (c.toNat / 16), Nat.digitChar (c.toNat % 16)]
  else [c]

/-- A string in quotes. -/
def quote (text : String) : String :=
  String.ofList ('"' :: (text.toList.flatMap escapeChar ++ ['"']))

/-- How the parts of a document are set. -/
inductive Style where
  | compact
  | pretty
  deriving DecidableEq

namespace Style

/-- What goes before an item at a level. -/
def lineBreak : Style → Nat → String
  | compact, _ => ""
  | pretty, level => "\n" ++ String.ofList (List.replicate (2 * level) ' ')

/-- What goes between a key and its value. -/
def colon : Style → String
  | compact => ":"
  | pretty => ": "

/-- Items between brackets; nothing stands between the brackets if there are none. -/
def enclose (style : Style) (level : Nat) (opening closing : String) : List String → String
  | [] => opening ++ closing
  | items =>
    opening ++ String.intercalate "," (items.map (style.lineBreak (level + 1) ++ ·)) ++
      style.lineBreak level ++ closing

end Style

mutual
/-- The text of a tree that stands at a level. -/
def writeAt (style : Style) (level : Nat) : Tree → String
  | .null => "null"
  | .boolean value => if value then "true" else "false"
  | .integer value => toString value
  | .character value => quote (String.singleton value)
  | .single value => singleLayout.write .single value.datum
  | .double value => doubleLayout.write .double value.datum
  | .text value => quote value
  | .sequence items => style.enclose level "[" "]" (writeItems style (level + 1) items)
  | .mapping entries =>
    style.enclose level "\x7b" "\x7d" (writeEntries style (level + 1) entries)

def writeItems (style : Style) (level : Nat) : List Tree → List String
  | [] => []
  | item :: rest => writeAt style level item :: writeItems style level rest

def writeEntries (style : Style) (level : Nat) : List (String × Tree) → List String
  | [] => []
  | (key, value) :: rest =>
    (quote key ++ style.colon ++ writeAt style level value) :: writeEntries style level rest
end

/-- The text of a tree. -/
def write (style : Style) (tree : Tree) : String := writeAt style 0 tree

end ValuePath.Json
