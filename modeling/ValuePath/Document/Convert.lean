import ValuePath.Json.Basic
import ValuePath.Yaml.NodeText
import ValuePath.Text.Blank

/-!
The values of documents. Integers take the narrowest of two widths, other
numbers are doubles, sequences are lists. Tags do not count, and keys of all
kinds become strings.
-/
namespace ValuePath.Value

open Numeric (Number)
open Yaml (Node)

/-- The value of a number. An integer outside 64 bits with sign is a double. -/
def ofNumber (n : Number) : Value :=
  match n.toInt64? with
  | some i => ofInt64 i
  | none => double n.toBinary64

mutual
/-- The value of a JSON document. -/
def ofJson : Json → Value
  | .null => null
  | .boolean value => boolean value
  | .number value => ofNumber value
  | .string value => string value
  | .array items => list (ofJsonItems items)
  | .object entries => map (ofJsonEntries entries)

def ofJsonItems : List Json → List Value
  | [] => []
  | item :: rest => ofJson item :: ofJsonItems rest

def ofJsonEntries : List (String × Json) → List (String × Value)
  | [] => []
  | (key, value) :: rest => (key, ofJson value) :: ofJsonEntries rest
end

/-- The string that a key of a YAML document becomes. A sequence or a mapping
becomes its text, without blanks at the end. -/
def ofYamlKey : Node → String
  | .string value => value
  | .null => "null"
  | .boolean value => Yaml.booleanText value
  | .number value => Yaml.numberText value
  | .tagged _ value => ofYamlKey value
  | node => String.ofList (Text.trimEnd ((node.text?).getD "").toList)

mutual
/-- The value of a YAML document. Keys that become equal share one place, the
first one, and the last value counts. -/
def ofYaml : Node → Value
  | .null => null
  | .boolean value => boolean value
  | .number value => ofNumber value
  | .string value => string value
  | .sequence items => list (ofYamlItems items)
  | .mapping entries => map (Entries.ofPairs (ofYamlEntries entries))
  | .tagged _ value => ofYaml value

def ofYamlItems : List Node → List Value
  | [] => []
  | item :: rest => ofYaml item :: ofYamlItems rest

/-- The entries of a mapping, before those with equal keys are joined. -/
def ofYamlEntries : List (Node × Node) → List (String × Value)
  | [] => []
  | (key, value) :: rest => (ofYamlKey key, ofYaml value) :: ofYamlEntries rest
end

end ValuePath.Value
