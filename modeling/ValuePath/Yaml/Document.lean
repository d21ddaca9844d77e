import ValuePath.Yaml.Content
import ValuePath.Yaml.Scan

/-!
The documents of a text. The first one may begin without a marker, every other
one begins with directives or with the marker of a start.
-/
namespace ValuePath.Yaml

/-- A document: its content, and what the aliases in it stand for. -/
structure Document where
  content : Content
  anchors : Anchors

namespace Document

/-- The document of a text without any. -/
def blank : Document := ⟨Content.absent, Anchors.empty⟩

/-- The prefixes of the handles that are known without a directive. -/
def usualPrefixes : Prefixes :=
  [("!", Text.encode "!"), ("!!", Text.encode "tag:yaml.org,2002:")]

/-- Takes the directives off the front. The version has to be 1.1 or 1.2 and
stands once at most, and so does every handle. A directive for one of the usual
handles stands in front of its usual prefix. -/
def readDirectives? (versioned : Bool) (prefixes : Prefixes) :
    List Token → Option (Prefixes × List Token)
  | .directive (.version major minor) :: rest =>
    if !versioned && major = 1 && (minor = 1 || minor = 2) then readDirectives? true prefixes rest
    else none
  | .directive (.tagPrefix handle expansion) :: rest =>
    if Entries.contains handle prefixes then none
    else readDirectives? versioned (prefixes ++ [(handle, expansion)]) rest
  | rest => some (prefixes ++ usualPrefixes, rest)

/-- Whether a document that starts with a marker has no content. -/
def isEmptyBefore : List Token → Bool
  | .directive _ :: _ | .documentStart :: _ | .documentEnd :: _ | .streamEnd :: _ => true
  | _ => false

/-- Reads the content of a document that starts with a marker. -/
def readMarked? (fuel : Nat) (prefixes : Prefixes) (tokens : List Token) :
    Option (Content × Anchors × List Token) :=
  if isEmptyBefore tokens then some (Content.absent, Anchors.empty, tokens)
  else Content.read? prefixes fuel true false Anchors.empty tokens

/-- Whether a document without a marker begins here. -/
def isBare : List Token → Bool
  | .directive _ :: _ | .documentStart :: _ => false
  | _ => true

/-- Reads a document and the marker of its end. A marker of the start may be
missing only in the first document. -/
def read? (fuel : Nat) (first : Bool) (tokens : List Token) :
    Option (Document × List Token) := do
  let (content, anchors, rest) ←
    if first && isBare tokens then
      Content.read? usualPrefixes fuel true false Anchors.empty tokens
    else
      match ← readDirectives? false [] tokens with
      | (prefixes, .documentStart :: rest) => readMarked? fuel prefixes rest
      | _ => none
  match rest with
  | .broken :: _ => none
  | .documentEnd :: rest => some (⟨content, anchors⟩, rest)
  | rest => some (⟨content, anchors⟩, rest)

/-- Passes over the markers of ends. -/
def skipEnds : List Token → List Token
  | .documentEnd :: rest => skipEnds rest
  | rest => rest

/-- Reads documents up to the end or to the first one that breaks the rules,
for which nothing stands in the list. `size` is the count of all tokens; a content
is read in three steps for each of them at most. -/
def readFrom (size : Nat) : (fuel : Nat) → (first : Bool) → List Token → List (Option Document)
  | 0, _, _ => [none]
  | fuel + 1, first, tokens =>
    let start := if first then tokens else skipEnds tokens
    if start.head? = some .streamEnd then if first then [some blank] else []
    else
      match read? (3 * size + 3) first start with
      | none => [none]
      | some (document, rest) => some document :: readFrom size fuel false rest

/-- The documents of a text, at least one. -/
def readAll (text : List Char) : List (Option Document) :=
  let tokens := Token.ofText text
  readFrom tokens.length (tokens.length + 1) true tokens

end Document
end ValuePath.Yaml
