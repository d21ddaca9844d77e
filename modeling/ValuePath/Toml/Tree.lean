import ValuePath.Numeric.Binary
import ValuePath.Entries

/-!
TOML documents as data, and how the lines of a document build its tables. No
line may change what another one has finished: a value stays as it is, a table
gets one header, and the tables that dotted keys bring along are filled by dotted
keys alone.
-/
namespace ValuePath

open Numeric (Binary64)

/-- Where a table comes from. -/
inductive Toml.Origin where
  /-- A value between braces. -/
  | inline
  /-- A header of its own. -/
  | header
  /-- A header of a table within it. -/
  | implied
  /-- The steps of a dotted key. -/
  | dotted
  deriving DecidableEq

inductive Toml where
  | boolean (value : Bool)
  | integer (value : Int64)
  | float (value : Binary64)
  | string (value : String)
  | dateTime (text : String)
  | array (items : List Toml)
  | table (origin : Toml.Origin) (entries : List (String × Toml))
  /-- Tables under headers in double brackets. -/
  | tables (elements : List (List (String × Toml)))

namespace Toml

/-- The entries of a table in order. -/
abbrev Table := List (String × Toml)

/-- Changes the last element, if there is one. -/
def changeLast (change : Table → Option Table) : List Table → Option (List Table)
  | [] => none
  | [last] => (change last).map ([·])
  | element :: rest => (changeLast change rest).map (element :: ·)

/-- Puts a value under a key that is still free, down the steps of a dotted key.
The last table on the way has to be one of a dotted key. -/
def define (key : String) (value : Toml) : (path : List String) → Table → Option Table
  | [], entries =>
    if Entries.contains key entries then none else some (entries ++ [(key, value)])
  | step :: path, entries =>
    match Entries.find? step entries with
    | none => (define key value path []).map fun inner =>
        entries ++ [(step, table .dotted inner)]
    | some (table .dotted inner) => (define key value path inner).map fun inner =>
        Entries.insert step (table .dotted inner) entries
    | some (table .implied inner) =>
      if path.isEmpty then none
      else (define key value path inner).map fun inner =>
        Entries.insert step (table .implied inner) entries
    | some (tables elements) =>
      if path.isEmpty then none
      else (changeLast (define key value path) elements).map fun elements =>
        Entries.insert step (tables elements) entries
    | some _ => none

/-- Goes down the steps of a header, makes tables where there are none, and
changes the table at the end of the way. -/
def descend (change : Table → Option Table) : (path : List String) → Table → Option Table
  | [], entries => change entries
  | step :: path, entries =>
    match Entries.find? step entries with
    | none => (descend change path []).map fun inner =>
        entries ++ [(step, table .implied inner)]
    | some (table .inline _) => none
    | some (table origin inner) => (descend change path inner).map fun inner =>
        Entries.insert step (table origin inner) entries
    | some (tables elements) => (changeLast (descend change path) elements).map fun elements =>
        Entries.insert step (tables elements) entries
    | some _ => none

/-- A header gives a name to a new table, or to one that was implied so far. -/
def openTable (name : String) (entries : Table) : Option Table :=
  match Entries.find? name entries with
  | none => some (entries ++ [(name, table .header [])])
  | some (table .implied inner) => some (Entries.insert name (table .header inner) entries)
  | some _ => none

/-- A header in double brackets adds a table to those of its name. -/
def openElement (name : String) (entries : Table) : Option Table :=
  match Entries.find? name entries with
  | none => some (entries ++ [(name, tables [[]])])
  | some (tables elements) => some (Entries.insert name (tables (elements ++ [[]])) entries)
  | some _ => none

/-- Splits a dotted key into the steps on the way and the last one. -/
def splitKey (key : List String) : List String × String := (key.dropLast, (key.getLast?).getD "")

/-- A document while it is being read: its tables, and the path to the one that
the next lines fill. -/
structure Draft where
  root : Table
  current : List String

namespace Draft

def start : Draft := ⟨[], []⟩

/-- Takes a line with a key and a value. -/
def put? (draft : Draft) (key : List String) (value : Toml) : Option Draft :=
  let (path, name) := splitKey key
  (descend (define name value path) draft.current draft.root).map fun root => { draft with root }

/-- Takes the header of a table. -/
def openTable? (draft : Draft) (key : List String) : Option Draft :=
  let (path, name) := splitKey key
  (descend (openTable name) path draft.root).map fun root => ⟨root, key⟩

/-- Takes the header of an element. -/
def openElement? (draft : Draft) (key : List String) : Option Draft :=
  let (path, name) := splitKey key
  (descend (openElement name) path draft.root).map fun root => ⟨root, key⟩

end Draft

/-- The table between braces that holds these entries. -/
def inlineTable? (entries : List (List String × Toml)) : Option Toml :=
  (entries.foldlM (fun held (key, value) =>
    let (path, name) := splitKey key
    define name value path held) []).map (table .inline)

end Toml
end ValuePath
