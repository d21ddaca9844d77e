import ValuePath.Yaml.Token
import ValuePath.Entries

/-!
The contents of documents, as their tokens nest. Aliases are kept: an alias
stands for the number of its anchor. An anchor takes the count of names known so
far as its number, so that an anchor whose name is used again may come to share
its number with another one; of those with one number the last to begin counts.
-/
namespace ValuePath.Yaml

inductive Content where
  | alias (number : Nat)
  | scalar (tag : Option String) (plain : Bool) (text : String)
  | sequence (tag : Option String) (items : List Content)
  | mapping (tag : Option String) (entries : List (Content × Content))

namespace Content

/-- A scalar that is not written. -/
def absent : Content := scalar none true ""

mutual
/-- The count of events that a content is made of: one for a scalar or an alias,
two for the bounds of a collection besides those inside. -/
def eventCount : Content → Nat
  | .alias _ | scalar .. => 1
  | sequence _ items => 2 + itemEvents items
  | mapping _ entries => 2 + entryEvents entries

def itemEvents : List Content → Nat
  | [] => 0
  | item :: rest => eventCount item + itemEvents rest

def entryEvents : List (Content × Content) → Nat
  | [] => 0
  | (key, value) :: rest => eventCount key + eventCount value + entryEvents rest
end

end Content

/-- What is known of the anchors of a document. -/
structure Anchors where
  /-- The numbers of the names. -/
  numbers : List (String × Nat)
  /-- How many anchored contents have begun. -/
  begun : Nat
  /-- Number, order of beginning and content of those that are complete. -/
  complete : List (Nat × Nat × Content)

namespace Anchors

def empty : Anchors := ⟨[], 0, []⟩

/-- A content with this anchor begins. -/
def announce (anchors : Anchors) (name : String) : Anchors :=
  { anchors with
    numbers := Entries.insert name anchors.numbers.length anchors.numbers
    begun := anchors.begun + 1 }

/-- The content that an alias to this number stands for. -/
def find? (anchors : Anchors) (number : Nat) : Option Content :=
  let candidates := anchors.complete.filter (·.1 == number)
  let latest := candidates.foldl (fun found (_, order, content) =>
    match found with
    | some (best, held) => if best < order then some (order, content) else some (best, held)
    | none => some (order, content)) (none : Option (Nat × Content))
  latest.map Prod.snd

end Anchors

/-- The properties written in front of a content. -/
structure Properties where
  anchor : Option String
  tag : Option TagText

namespace Properties

/-- Takes an anchor and a tag off the front, in either order. -/
def read : List Token → Properties × List Token
  | .anchor name :: .tag tag :: rest => (⟨some name, some tag⟩, rest)
  | .anchor name :: rest => (⟨some name, none⟩, rest)
  | .tag tag :: .anchor name :: rest => (⟨some name, some tag⟩, rest)
  | .tag tag :: rest => (⟨none, some tag⟩, rest)
  | rest => (⟨none, none⟩, rest)

end Properties

/-- The handles that are known, each with its prefix. -/
abbrev Prefixes := List (String × List UInt8)

/-- The tag that is made of these bytes. Bytes that are no text have no name; they
are no tag at all where they begin with an exclamation mark. -/
def tagOfBytes? (bytes : List UInt8) : Option String :=
  match Text.decode? bytes with
  | some name => some name
  | none => if (Text.encode "!").isPrefixOf bytes then none else some ""

/-- The bytes of the tag that a tag as written stands for, given the prefixes of the
handles. The handle has to be known. -/
def TagText.expand? (prefixes : Prefixes) (tag : TagText) : Option (List UInt8) :=
  if tag.handle.isEmpty then some tag.suffix
  else (Entries.find? tag.handle prefixes).map (· ++ tag.suffix)

/-- What may follow in the place of a content that is not written. -/
def endsEntry (ends : List Token) : List Token → Bool
  | token :: _ => ends.contains token
  | [] => true

namespace Content

mutual
/-- Reads a content. Blocks may begin where `block` holds, and entries of a
sequence without an indentation of its own where `indentless` holds. -/
def read? (prefixes : Prefixes) : (fuel : Nat) → (block indentless : Bool) →
    Anchors → List Token → Option (Content × Anchors × List Token)
  | 0, _, _, _, _ => none
  | _ + 1, _, _, anchors, .alias name :: rest =>
    (Entries.find? name anchors.numbers).map fun number => (.alias number, anchors, rest)
  | fuel + 1, block, indentless, anchors, tokens =>
    let (properties, body) := Properties.read tokens
    let expanded : Option (Option String) :=
      match properties.tag with
      | none => some none
      | some tag => (tag.expand? prefixes).map tagOfBytes?
    match expanded with
    | none => none
    | some tag =>
      let announced := match properties.anchor with
        | some name => anchors.announce name
        | none => anchors
      let complete (content : Content) (after : Anchors) : Anchors :=
        match properties.anchor with
        | some _ =>
          { after with
            complete := (anchors.numbers.length, announced.begun, content) :: after.complete }
        | none => after
      let notWritten : Option (Content × Anchors × List Token) :=
        if properties.anchor.isSome || properties.tag.isSome then
          let content := scalar tag true ""
          some (content, complete content announced, body)
        else none
      let sequenceOf (items? : Option (List Content × Anchors × List Token)) :=
        items?.map fun (items, after, rest) =>
          (sequence tag items, complete (sequence tag items) after, rest)
      let mappingOf (entries? : Option (List (Content × Content) × Anchors × List Token)) :=
        entries?.map fun (entries, after, rest) =>
          (mapping tag entries, complete (mapping tag entries) after, rest)
      match body with
      | .scalar plain text :: rest =>
        let content := scalar (if tag = some "!" then none else tag) plain text
        some (content, complete content announced, rest)
      | .flowSequenceStart :: rest =>
        sequenceOf (readFlowItems? prefixes fuel true announced rest)
      | .flowMappingStart :: rest =>
        mappingOf (readFlowEntries? prefixes fuel true announced rest)
      | .blockEntry :: _ =>
        if indentless then sequenceOf (readIndentless? prefixes fuel announced body)
        else notWritten
      | .blockSequenceStart :: rest =>
        if block then sequenceOf (readBlockItems? prefixes fuel announced rest) else notWritten
      | .blockMappingStart :: rest =>
        if block then mappingOf (readBlockEntries? prefixes fuel announced rest) else notWritten
      | .broken :: _ => none
      | _ => notWritten

/-- Reads a content, or nothing at all before one of these tokens. -/
def readOptional? (prefixes : Prefixes) : (fuel : Nat) →
    (block indentless : Bool) → (ends : List Token) → Anchors → List Token →
    Option (Content × Anchors × List Token)
  | 0, _, _, _, _, _ => none
  | fuel + 1, block, indentless, ends, anchors, tokens =>
    if endsEntry ends tokens then some (absent, anchors, tokens)
    else read? prefixes fuel block indentless anchors tokens

/-- Reads the items of a block sequence up to its end. -/
def readBlockItems? (prefixes : Prefixes) : (fuel : Nat) → Anchors →
    List Token → Option (List Content × Anchors × List Token)
  | 0, _, _ => none
  | _ + 1, anchors, .blockEnd :: rest => some ([], anchors, rest)
  | fuel + 1, anchors, .blockEntry :: rest => do
    let (item, anchors, rest) ←
      readOptional? prefixes fuel true false [.blockEntry, .blockEnd] anchors rest
    let (items, anchors, rest) ← readBlockItems? prefixes fuel anchors rest
    return (item :: items, anchors, rest)
  | _ + 1, _, _ => none

/-- Reads the items of a sequence that stands at the indentation of its key. -/
def readIndentless? (prefixes : Prefixes) : (fuel : Nat) → Anchors →
    List Token → Option (List Content × Anchors × List Token)
  | 0, _, _ => none
  | fuel + 1, anchors, .blockEntry :: rest => do
    let (item, anchors, rest) ←
      readOptional? prefixes fuel true false [.blockEntry, .key, .value, .blockEnd] anchors rest
    let (items, anchors, rest) ← readIndentless? prefixes fuel anchors rest
    return (item :: items, anchors, rest)
  | _ + 1, _, .broken :: _ => none
  | _ + 1, anchors, tokens => some ([], anchors, tokens)

/-- Reads the entries of a block mapping up to its end. -/
def readBlockEntries? (prefixes : Prefixes) : (fuel : Nat) → Anchors →
    List Token → Option (List (Content × Content) × Anchors × List Token)
  | 0, _, _ => none
  | _ + 1, anchors, .blockEnd :: rest => some ([], anchors, rest)
  | fuel + 1, anchors, .key :: rest => do
    let (key, anchors, rest) ←
      readOptional? prefixes fuel true true [.key, .value, .blockEnd] anchors rest
    let (value, anchors, rest) ← readBlockValue? prefixes fuel anchors rest
    let (entries, anchors, rest) ← readBlockEntries? prefixes fuel anchors rest
    return ((key, value) :: entries, anchors, rest)
  | _ + 1, _, _ => none

/-- Reads the value of an entry of a block mapping, which may be left out. -/
def readBlockValue? (prefixes : Prefixes) : (fuel : Nat) → Anchors →
    List Token → Option (Content × Anchors × List Token)
  | 0, _, _ => none
  | fuel + 1, anchors, .value :: rest =>
    readOptional? prefixes fuel true true [.key, .value, .blockEnd] anchors rest
  | _ + 1, _, .broken :: _ => none
  | _ + 1, anchors, tokens => some (absent, anchors, tokens)

/-- Reads the items between square brackets. -/
def readFlowItems? (prefixes : Prefixes) : (fuel : Nat) → (first : Bool) →
    Anchors → List Token → Option (List Content × Anchors × List Token)
  | 0, _, _, _ => none
  | _ + 1, _, anchors, .flowSequenceEnd :: rest => some ([], anchors, rest)
  | fuel + 1, first, anchors, tokens =>
    let body? : Option (List Token) :=
      if first then some tokens
      else match tokens with
        | .flowEntry :: rest => some rest
        | _ => none
    match body? with
    | none => none
    | some (.flowSequenceEnd :: rest) => some ([], anchors, rest)
    | some (.key :: rest) => do
      let (entry, anchors, rest) ← readFlowPair? prefixes fuel anchors rest
      let (items, anchors, rest) ← readFlowItems? prefixes fuel false anchors rest
      return (mapping none [entry] :: items, anchors, rest)
    | some body => do
      let (item, anchors, rest) ← read? prefixes fuel false false anchors body
      let (items, anchors, rest) ← readFlowItems? prefixes fuel false anchors rest
      return (item :: items, anchors, rest)

/-- Reads a single pair between square brackets, after the token of its key. A
key that is left out takes the token after it along. -/
def readFlowPair? (prefixes : Prefixes) : (fuel : Nat) → Anchors →
    List Token → Option ((Content × Content) × Anchors × List Token)
  | 0, _, _ => none
  | fuel + 1, anchors, tokens => do
    let ends : List Token := [.value, .flowEntry, .flowSequenceEnd]
    let (key, anchors, rest) ←
      if endsEntry ends tokens then some (absent, anchors, tokens.tail)
      else read? prefixes fuel false false anchors tokens
    let (value, anchors, rest) ←
      readFlowValue? prefixes fuel [.flowEntry, .flowSequenceEnd] anchors rest
    return ((key, value), anchors, rest)

/-- Reads the value of a pair between brackets, which may be left out. -/
def readFlowValue? (prefixes : Prefixes) : (fuel : Nat) → (ends : List Token) →
    Anchors → List Token → Option (Content × Anchors × List Token)
  | 0, _, _, _ => none
  | fuel + 1, ends, anchors, .value :: rest =>
    readOptional? prefixes fuel false false ends anchors rest
  | _ + 1, _, _, .broken :: _ => none
  | _ + 1, _, anchors, tokens => some (absent, anchors, tokens)

/-- Reads the entries between braces. -/
def readFlowEntries? (prefixes : Prefixes) : (fuel : Nat) → (first : Bool) →
    Anchors → List Token → Option (List (Content × Content) × Anchors × List Token)
  | 0, _, _, _ => none
  | _ + 1, _, anchors, .flowMappingEnd :: rest => some ([], anchors, rest)
  | fuel + 1, first, anchors, tokens =>
    let body? : Option (List Token) :=
      if first then some tokens
      else match tokens with
        | .flowEntry :: rest => some rest
        | _ => none
    match body? with
    | none => none
    | some (.flowMappingEnd :: rest) => some ([], anchors, rest)
    | some (.key :: rest) => do
      let ends : List Token := [.flowEntry, .flowMappingEnd]
      let (key, anchors, rest) ←
        readOptional? prefixes fuel false false (.value :: ends) anchors rest
      let (value, anchors, rest) ← readFlowValue? prefixes fuel ends anchors rest
      let (entries, anchors, rest) ← readFlowEntries? prefixes fuel false anchors rest
      return ((key, value) :: entries, anchors, rest)
    | some body => do
      let (key, anchors, rest) ← read? prefixes fuel false false anchors body
      let (entries, anchors, rest) ← readFlowEntries? prefixes fuel false anchors rest
      return ((key, absent) :: entries, anchors, rest)
end

end Content
end ValuePath.Yaml
