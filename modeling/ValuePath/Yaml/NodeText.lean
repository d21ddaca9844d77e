import ValuePath.Yaml.Node
import ValuePath.Yaml.Writer

/-!
YAML documents as text.
-/
namespace ValuePath.Yaml.Node

/-- A tag as it is written, with an exclamation mark in front. -/
def writtenTag (tag : String) : String :=
  let name := bareTag tag
  if name.toList.head? == some '!' then name else "!" ++ name

mutual
/-- The outline of a document under a tag. There is none where a value with a tag
stands directly under another tag. -/
def outline? (tag : Option String) : Node → Option Outline
  | null => some (.word tag "null")
  | boolean value => some (.word tag (booleanText value))
  | number value => some (.word tag (numberText value))
  | string value => some (.string tag value)
  | sequence items => (outlines? items).map (.sequence tag)
  | mapping entries => (entryOutlines? entries).map (.mapping tag)
  | tagged name value =>
    match tag with
    | some _ => none
    | none => outline? (some (writtenTag name)) value

def outlines? : List Node → Option (List Outline)
  | [] => some []
  | item :: rest => do return (← outline? none item) :: (← outlines? rest)

def entryOutlines? : List (Node × Node) → Option (List (Outline × Outline))
  | [] => some []
  | (key, value) :: rest =>
    do return (← outline? none key, ← outline? none value) :: (← entryOutlines? rest)
end

/-- The text of a document. -/
def text? (node : Node) : Option String := (outline? none node).map Outline.document

end ValuePath.Yaml.Node
