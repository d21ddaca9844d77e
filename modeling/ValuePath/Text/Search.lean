/-!
Searching text for other text. Positions count characters, matches are found
from left to right and do not overlap.
-/
namespace ValuePath.Text

/-- The first position at which the needle begins. -/
def find? (needle : List Char) : List Char → Option Nat
  | [] => if needle.isEmpty then some 0 else none
  | c :: rest =>
    if needle.isPrefixOf (c :: rest) then some 0 else (find? needle rest).map (· + 1)

/-- Whether the needle begins anywhere. -/
def contains (needle text : List Char) : Bool := (find? needle text).isSome

/-- The pieces between the matches of a nonempty separator. `skip` counts the
characters of a match that are still to be passed over, `piece` holds the
characters of the current piece, the last one first. -/
def piecesFrom (separator : List Char) : Nat → List Char → List Char → List (List Char)
  | _, piece, [] => [piece.reverse]
  | skip + 1, piece, _ :: rest => piecesFrom separator skip piece rest
  | 0, piece, c :: rest =>
    if separator.isPrefixOf (c :: rest) then
      piece.reverse :: piecesFrom separator (separator.length - 1) [] rest
    else piecesFrom separator 0 (c :: piece) rest

/-- The pieces of a text between the matches of a nonempty separator. -/
def pieces (separator text : List Char) : List (List Char) := piecesFrom separator 0 [] text

/-- Every match exchanged for the replacement. An empty pattern matches before
every character and at the end. -/
def replace (pattern replacement text : List Char) : List Char :=
  if pattern.isEmpty then replacement ++ text.flatMap (· :: replacement)
  else ((pieces pattern text).intersperse replacement).flatten

end ValuePath.Text
