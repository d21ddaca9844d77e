import ValuePath.Toml.Text

/-!
Reading TOML documents. A document is a run of lines: blank ones, headers of
tables, and keys with values.
-/
namespace ValuePath.Toml

/-- How deep values and keys may be nested. -/
def depthLimit : Nat := 80

def isBareKeyChar (c : Char) : Bool :=
  Numeric.isDecimalDigit c || ('a' ≤ c && c ≤ 'z') || ('A' ≤ c && c ≤ 'Z') || c == '_' || c == '-'

/-- Reads one step of a key, a bare word or a string, with the blanks around it. -/
def readStep? (text : List Char) : Option (String × List Char) :=
  let start := skipSpaces text
  let step? :=
    if start.head?.any isBareKeyChar then
      some (String.ofList (start.takeWhile isBareKeyChar), start.dropWhile isBareKeyChar)
    else readString? start
  step?.map fun (step, rest) => (step, skipSpaces rest)

/-- Reads the steps of a key with the dots between them. -/
def readSteps? : (fuel : Nat) → List Char → Option (List String × List Char)
  | 0, _ => none
  | fuel + 1, text =>
    match readStep? text with
    | some (step, '.' :: rest) => (readSteps? fuel rest).map fun (steps, rest) =>
        (step :: steps, rest)
    | some (step, rest) => some ([step], rest)
    | none => none

/-- Reads a key of fewer steps than the limit. -/
def readKey? (text : List Char) : Option (List String × List Char) :=
  readSteps? (depthLimit - 1) text

mutual
/-- Reads a value. Brackets may be nested `depth` deep inside of it. -/
def readValue? : (fuel depth : Nat) → List Char → Option (Toml × List Char)
  | 0, _, _ | _, _, [] => none
  | fuel + 1, depth, c :: rest =>
    if c = '"' || c = '\'' then (readAnyString? (c :: rest)).map fun (text, rest) =>
      (string text, rest)
    else if c = '[' then
      match depth with
      | 0 => none
      | inner + 1 => (readItems? fuel inner (skipLines (rest.length + 1) rest)).map
          fun (items, rest) => (array items, rest)
    else if c = '\x7b' then
      match depth with
      | 0 => none
      | inner + 1 =>
        match skipSpaces rest with
        | '\x7d' :: rest => some (table .inline [], rest)
        | rest => do
          let (entries, rest) ← readEntries? fuel inner rest
          return (← inlineTable? entries, rest)
    else
      let (word, rest) := takeWord (c :: rest)
      (ofWord? word).map (·, rest)

/-- Reads the items of an array up to its closing bracket. -/
def readItems? : (fuel depth : Nat) → List Char → Option (List Toml × List Char)
  | 0, _, _ => none
  | _ + 1, _, ']' :: rest => some ([], rest)
  | fuel + 1, depth, text => do
    let (item, rest) ← readValue? fuel depth text
    match skipLines (rest.length + 1) rest with
    | ',' :: rest =>
      let (items, rest) ← readItems? fuel depth (skipLines (rest.length + 1) rest)
      return (item :: items, rest)
    | ']' :: rest => some ([item], rest)
    | _ => none

/-- Reads the entries of a table up to its closing brace, one at least. -/
def readEntries? : (fuel depth : Nat) → List Char →
    Option (List (List String × Toml) × List Char)
  | 0, _, _ => none
  | fuel + 1, depth, text => do
    let (key, rest) ← readKey? text
    let (value, rest) ← readValue? fuel depth (skipSpaces (← takeChar? '=' rest))
    match skipSpaces rest with
    | ',' :: rest =>
      let (entries, rest) ← readEntries? fuel depth rest
      return ((key, value) :: entries, rest)
    | '\x7d' :: rest => some ([(key, value)], rest)
    | _ => none
end

/-- Reads the header of a table behind its brackets, and the rest of its line. -/
def readHeader? (brackets : Nat) (text : List Char) : Option (List String × List Char) := do
  let (key, rest) ← readKey? text
  let rest ← if brackets = 2 then takeChar? ']' rest else some rest
  return (key, ← skipLineEnd? (← takeChar? ']' rest))

/-- Reads a key with its value, and the rest of their line. -/
def readPair? (text : List Char) : Option ((List String × Toml) × List Char) := do
  let (key, rest) ← readKey? text
  let start := skipSpaces (← takeChar? '=' rest)
  let (value, rest) ← readValue? (2 * start.length + 2) (depthLimit - 1) start
  return ((key, value), ← skipLineEnd? rest)

/-- Reads the lines of a document. -/
def readFrom? : (fuel : Nat) → Draft → List Char → Option Table
  | 0, _, _ => none
  | fuel + 1, draft, text =>
    match skipLines (text.length + 1) text with
    | [] => some draft.root
    | '#' :: rest => if skipComment ('#' :: rest) = [] then some draft.root else none
    | '[' :: '[' :: rest => do
      let (key, rest) ← readHeader? 2 rest
      readFrom? fuel (← draft.openElement? key) rest
    | '[' :: rest => do
      let (key, rest) ← readHeader? 1 rest
      readFrom? fuel (← draft.openTable? key) rest
    | start => do
      let ((key, value), rest) ← readPair? start
      readFrom? fuel (← draft.put? key value) rest

/-- The table that a text spells. A byte order mark at its start is no part of it. -/
def parse? (text : List Char) : Option Table :=
  let body := if text.head? = some '\uFEFF' then text.tail else text
  readFrom? (body.length + 1) Draft.start body

end ValuePath.Toml
