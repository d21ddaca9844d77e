import ValuePath.Yaml.ScalarText
import ValuePath.Yaml.Scalar
import ValuePath.Document.Tree
import ValuePath.Numeric.Layout
import ValuePath.Text.Utf8

/-!
Writing trees as YAML text in blocks. Collections inside of sequences begin on
the line of their dash, sequences inside of mappings stand at the indentation of
their key.
-/
namespace ValuePath.Yaml

open Numeric (Layout Number)

/-- What is to be written: scalars with the form that is asked for, and
collections, each with its tag. -/
inductive Outline where
  | scalar (tag : Option String) (form : Form) (text : String)
  | sequence (tag : Option String) (items : List Outline)
  | mapping (tag : Option String) (entries : List (Outline × Outline))

/-- Where something is written, and the column of the collection around it. -/
inductive Place where
  | root
  /-- After the dash of an item. -/
  | item (column : Nat)
  /-- After a key on the same line. -/
  | value (column : Nat)
  /-- After the mark of a key or a value. -/
  | part (column : Nat)

namespace Place

/-- The column of the lines that a scalar goes on with. -/
def scalarIndent : Place → Nat
  | root => 2
  | item column | value column | part column => column + 2

/-- What parts the text from its mark. -/
def gap : Place → List Char
  | root => []
  | _ => [' ']

/-- The column of a mapping. -/
def mappingColumn : Place → Nat
  | root => 0
  | item column | value column | part column => column + 2

/-- The column of a sequence. After a key, or behind a tag in a mapping, it is
that of the mapping. -/
def sequenceColumn (hasTag : Bool) : Place → Nat
  | root => 0
  | item column => column + 2
  | value column => column
  | part column => if hasTag then column else column + 2

/-- Whether the first line of a collection goes on the line that is begun. -/
def isInline (hasTag : Bool) : Place → Bool
  | value _ => false
  | _ => !hasTag

end Place

namespace Outline

def isTagText (byte : UInt8) : Bool :=
  let c := Char.ofNat byte.toNat
  isWordChar c ||
    [';', '/', '?', ':', '@', '&', '=', '+', '$', ',', '.', '~', '*', '\'', '(', ')', '[',
      ']'].contains c

/-- The name of a tag. A byte that cannot stand in a tag is escaped. -/
def tagBody (name : List Char) : List Char :=
  (Text.encode (String.ofList name)).flatMap fun byte =>
    if isTagText byte then [Char.ofNat byte.toNat]
    else '%' :: [Nat.digitChar (byte.toNat / 16), Nat.digitChar (byte.toNat % 16)].map Char.toUpper

/-- The text of a tag, which begins with an exclamation mark. -/
def tagText (tag : String) : List Char :=
  match tag.toList with
  | _ :: c :: rest => '!' :: tagBody (c :: rest)
  | name => ['!', '<'] ++ tagBody name ++ ['>']

/-- A tag, if there is one, and a text behind it. -/
def withTag (tag : Option String) (text : List Char) : List Char :=
  match tag with
  | some name => tagText name ++ ' ' :: text
  | none => text

/-- A text with a line end behind it, unless it has one. -/
def endLine (text : List Char) : List Char :=
  if text.getLast?.any isBreak then text else text ++ ['\n']

def tagSize (tag : Option String) : Nat := (tag.map String.utf8ByteSize).getD 0

/-- The text of what fits before a colon: a single line, and with its tag not
more than 128 bytes long. -/
def keyText? : Outline → Option (List Char)
  | scalar tag form text =>
    if text.toList.any isBreak || 128 < tagSize tag + text.utf8ByteSize then none
    else some (withTag tag ((form.settle text.toList).write 0 text.toList))
  | sequence tag [] => if 128 < tagSize tag then none else some (withTag tag ['[', ']'])
  | mapping tag [] => if 128 < tagSize tag then none else some (withTag tag ['\x7b', '\x7d'])
  | _ => none

/-- What goes before the first line of a collection. -/
def opening (place : Place) (tag : Option String) (column : Nat) : List Char :=
  if place.isInline tag.isSome then place.gap
  else
    (match tag with
      | some name => place.gap ++ tagText name
      | none => []) ++ '\n' :: Form.spaces column

mutual
/-- The text of an outline behind the mark of its place, up to the end of the line. -/
def write (place : Place) : Outline → List Char
  | scalar tag form text =>
    let chars := text.toList
    place.gap ++ withTag tag (endLine ((form.settle chars).write place.scalarIndent chars))
  | sequence tag [] => place.gap ++ withTag tag ['[', ']', '\n']
  | mapping tag [] => place.gap ++ withTag tag ['\x7b', '\x7d', '\n']
  | sequence tag items =>
    let column := place.sequenceColumn tag.isSome
    opening place tag column ++ (Form.spaces column).intercalate (writeItems column items)
  | mapping tag entries =>
    let column := place.mappingColumn
    opening place tag column ++ (Form.spaces column).intercalate (writeEntries column entries)

def writeItems (column : Nat) : List Outline → List (List Char)
  | [] => []
  | item :: rest => ('-' :: write (.item column) item) :: writeItems column rest

def writeEntries (column : Nat) : List (Outline × Outline) → List (List Char)
  | [] => []
  | (key, value) :: rest =>
    let entry := match keyText? key with
      | some text => text ++ ':' :: write (.value column) value
      | none =>
        '?' :: write (.part column) key ++ Form.spaces column ++ ':' :: write (.part column) value
    entry :: writeEntries column rest
end

/-- The text of a document. -/
def document (outline : Outline) : String := String.ofList (write .root outline)

/-- A word that is written as it is. -/
def word (tag : Option String) (text : String) : Outline := scalar tag .plain text

/-- A string asks for quotes where it would be read as something else, and for a
block where it has several lines. -/
def string (tag : Option String) (text : String) : Outline :=
  if text.toList.contains '\n' then scalar tag .literal text
  else if Scalar.ofPlain text != .text || Scalar.isPadded text.toList then scalar tag .single text
  else scalar tag .plain text

end Outline

/-- Numbers of 64 bits are positional from a hundred thousandth on and below
ten to the sixteenth. -/
def doubleLayout : Layout where
  positionalFrom := -5
  positionalTo := 15
  exponentPlus := false
  tie := .even
  nan := ".nan"
  infinity := ".inf"
  negativeInfinity := "-.inf"

/-- Numbers of 32 bits have their positional range moved down. -/
def singleLayout : Layout :=
  { doubleLayout with positionalFrom := -6, positionalTo := 12 }

/-- The text of a number. -/
def numberText : Number → String
  | .natural n => toString n.toNat
  | .negative n => toString n.toInt
  | .float x => doubleLayout.write .double x.datum

def booleanText (value : Bool) : String := if value then "true" else "false"

namespace Outline

mutual
/-- The outline of a tree. -/
def ofTree : Tree → Outline
  | .null => word none "null"
  | .boolean value => word none (booleanText value)
  | .integer value => word none (toString value)
  | .character value => scalar none .single (String.singleton value)
  | .single value => word none (singleLayout.write .single value.datum)
  | .double value => word none (doubleLayout.write .double value.datum)
  | .text value => string none value
  | .sequence items => sequence none (ofTrees items)
  | .mapping entries => mapping none (ofTreeEntries entries)

def ofTrees : List Tree → List Outline
  | [] => []
  | item :: rest => ofTree item :: ofTrees rest

def ofTreeEntries : List (String × Tree) → List (Outline × Outline)
  | [] => []
  | (key, value) :: rest => (string none key, ofTree value) :: ofTreeEntries rest
end

end Outline

/-- The text of a tree. -/
def write (tree : Tree) : String := (Outline.ofTree tree).document

end ValuePath.Yaml
