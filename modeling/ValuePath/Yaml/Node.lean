import ValuePath.Yaml.Document
import ValuePath.Yaml.Scalar

/-!
YAML documents as data: scalars, sequences, mappings with keys of any kind, and
values with a tag of their own.
-/
namespace ValuePath.Yaml

open Numeric (Number)

inductive Node where
  | null
  | boolean (value : Bool)
  | number (value : Number)
  | string (value : String)
  | sequence (items : List Node)
  | mapping (entries : List (Node × Node))
  | tagged (tag : String) (value : Node)

namespace Node

/-- Whether two numbers are equal. Integers differ from floating-point numbers,
and what is not a number equals itself. -/
def sameNumber : Number → Number → Bool
  | .float a, .float b => (a.isNaN && b.isNaN) || a.numericEq b
  | a, b => a == b

/-- A tag without the exclamation mark in front of its name. -/
def bareTag (tag : String) : String :=
  match tag.toList with
  | '!' :: c :: rest => String.ofList (c :: rest)
  | _ => tag

mutual
/-- Whether two documents are equal. Mappings compare without regard to order. -/
def same : Node → Node → Bool
  | null, null => true
  | boolean a, boolean b => a == b
  | number a, number b => sameNumber a b
  | string a, string b => a == b
  | sequence a, sequence b => sameItems a b
  | mapping a, mapping b => a.length == b.length && sameEntries a b
  | tagged a x, tagged b y => bareTag a == bareTag b && same x y
  | _, _ => false

/-- Whether two sequences have equal items at equal positions. -/
def sameItems : List Node → List Node → Bool
  | [], [] => true
  | a :: as, b :: bs => same a b && sameItems as bs
  | _, _ => false

/-- Whether every entry has an equal one among the others. -/
def sameEntries : List (Node × Node) → List (Node × Node) → Bool
  | [], _ => true
  | (key, value) :: rest, others =>
    (others.any fun other => same key other.1 && same value other.2) && sameEntries rest others
end

/-- Puts a value under a key: in place if an equal key is present, else at the end. -/
def insertEntry (key value : Node) : List (Node × Node) → List (Node × Node)
  | [] => [(key, value)]
  | (other, held) :: rest =>
    if same key other then (other, value) :: rest else (other, held) :: insertEntry key value rest

/-- The mapping that results from putting all entries in order. -/
def mappingOf (entries : List (Node × Node)) : Node :=
  mapping (entries.foldl (fun held (key, value) => insertEntry key value held) [])

/-- What a plain scalar stands for. An integer that is too large stands for nothing. -/
def ofPlain? (text : String) : Option Node :=
  match Scalar.ofPlain text with
  | .null => some null
  | .boolean value => some (boolean value)
  | .number value => some (number value)
  | .oversized => none
  | .text => some (string text)

/-- What a scalar with a tag stands for. Four of the core tags demand a scalar of
their kind, and every other tag makes the scalar a string. -/
def ofTagged? (tag text : String) : Option Node :=
  match tag with
  | "tag:yaml.org,2002:bool" => (Scalar.boolean? text).map boolean
  | "tag:yaml.org,2002:int" =>
    ((Scalar.integer? text.toList).bind Scalar.numberOf?).map number
  | "tag:yaml.org,2002:float" => (Scalar.float? text.toList).map fun x => number (.float x)
  | "tag:yaml.org,2002:null" => if Scalar.isNull text then some null else none
  | _ => some (string text)

/-- What a scalar stands for. Under a tag of the document its own tag does not count. -/
def ofScalar? (underTag : Bool) (tag : Option String) (plain : Bool) (text : String) :
    Option Node :=
  match underTag, tag with
  | false, some name => ofTagged? name text
  | _, _ => if plain then ofPlain? text else some (string text)

/-- The name of a tag that is kept in the document, one with an exclamation mark. -/
def ownTag? (tag : Option String) : Option String :=
  (tag.filter fun name => name.toList.head? == some '!').map bareTag

/-- How deep collections may be nested. -/
def depthLimit : Nat := 128

/-- Reads the content of a document. Collections may be nested `depth` deep, and
aliases may be followed as many times as `limit` says; the state counts them.
A value under a tag of its own passes that on to the keys of a mapping. No key
may stand twice. -/
def resolve (anchors : Anchors) (limit : Nat) : (fuel : Nat) → (depth : Nat) →
    (underTag : Bool) → Content → StateT Nat Option Node
  | 0, _, _, _ => failure
  | fuel + 1, depth, underTag, content => do
    let items (nested : List Content) : StateT Nat Option Node :=
      match depth with
      | 0 => failure
      | inner + 1 => do return sequence (← nested.mapM (resolve anchors limit fuel inner false))
    let entries (underTag : Bool) (nested : List (Content × Content)) : StateT Nat Option Node :=
      match depth with
      | 0 => failure
      | inner + 1 => do
        let read ← nested.foldlM (fun read (key, value) => do
          let key ← resolve anchors limit fuel inner underTag key
          if read.any fun other => same key other.1 then failure
          else return (key, ← resolve anchors limit fuel inner false value) :: read) []
        return mapping read.reverse
    match content with
    | .alias mark =>
      let followed ← getThe Nat
      if limit ≤ followed then failure
      else
        set (followed + 1)
        match anchors.find? mark with
        | some target => resolve anchors limit fuel depth false target
        | none => failure
    | .scalar tag plain text =>
      match underTag, ownTag? tag with
      | false, some name => do return tagged name (← StateT.lift (ofScalar? true tag plain text))
      | _, _ => StateT.lift (ofScalar? underTag tag plain text)
    | .sequence tag nested =>
      match underTag, ownTag? tag with
      | false, some name => do return tagged name (← items nested)
      | _, _ => items nested
    | .mapping tag nested =>
      match underTag, ownTag? tag with
      | false, some name => do return tagged name (← entries true nested)
      | _, _ => entries underTag nested

/-- A document as data. Its aliases may be followed a hundred times as often as
it has events, and between two collections at most one is followed. -/
def ofDocument? (document : Document) : Option Node :=
  ((resolve document.anchors (100 * document.content.eventCount) (2 * depthLimit + 2) depthLimit
    false document.content).run 0).map Prod.fst

/-- The documents of a text, at least one. Nothing stands for an invalid one. -/
def documents (text : List Char) : List (Option Node) :=
  (Document.readAll text).map fun document => document.bind ofDocument?

/-- The document of a text that holds just one. -/
def ofText? (text : List Char) : Option Node :=
  match documents text with
  | [document] => document
  | _ => none

end Node
end ValuePath.Yaml
