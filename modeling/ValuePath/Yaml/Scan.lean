import ValuePath.Yaml.Token
import ValuePath.Yaml.BlockText

/-!
How a YAML text is taken apart into tokens. Indentation becomes tokens of its own,
which open and close blocks. A key without an indicator shows only at the colon
after it, so its tokens are put in afterwards, at the place where the key began; such a key stays
within one line and 1024 bytes. A text that breaks the rules ends in a token that
nothing accepts; it stands in the place of the first key that was still possible,
since the tokens from there on were not final.
-/
namespace ValuePath.Yaml

/-- A place where a key may have begun. -/
structure PossibleKey where
  /-- Whether nothing but a key can stand there. -/
  required : Bool
  /-- How many tokens precede the key. -/
  position : Nat
  mark : Mark

/-- How far a text has been read. -/
structure Scan where
  cursor : Cursor
  /-- The index up to which the text can be read, if not to its end. -/
  readable : Option Nat
  /-- The count of the characters of the text. Nothing in it is longer. -/
  size : Nat
  /-- The column of the current block, -1 outside of blocks. -/
  indent : Int
  /-- The columns of the blocks around it. -/
  indents : List Int
  /-- Whether a key without an indicator may begin here. -/
  keyAllowed : Bool
  /-- The possible keys, one for each level of brackets, the innermost first. -/
  keys : List (Option PossibleKey)
  /-- The tokens so far. -/
  tokens : TokenLog

namespace Scan

def start (text : List Char) : Scan where
  cursor := ⟨Mark.start, text⟩
  readable := readableEnd? 0 0 text
  size := text.length
  indent := -1
  indents := []
  keyAllowed := true
  keys := [none]
  tokens := .empty

/-- Whether the place is inside brackets. -/
def inFlow (scan : Scan) : Bool := 1 < scan.keys.length

def column (scan : Scan) : Nat := scan.cursor.mark.column

/-- Whether the next characters can be read, this many at most. -/
def canRead (scan : Scan) (count : Nat) : Bool :=
  scan.readable.all fun last => (scan.cursor.skip count).mark.index ≤ last

def push (scan : Scan) (token : Token) : Scan :=
  { scan with tokens := scan.tokens.push token }

/-- Puts a token behind this many others. -/
def insertAt (scan : Scan) (position : Nat) (token : Token) : Scan :=
  { scan with tokens := scan.tokens.insertAt position token }

/-- Goes on behind some characters. -/
def skip (scan : Scan) (count : Nat) : Scan := { scan with cursor := scan.cursor.skip count }

/-- Exchanges the possible key of the innermost level. -/
def setKey (scan : Scan) (key : Option PossibleKey) : Scan :=
  { scan with keys := key :: scan.keys.tail }

def currentKey (scan : Scan) : Option PossibleKey := (scan.keys.head?).join

/-- Gives up the possible key of the innermost level; it must not be a required one. -/
def dropKey (scan : Scan) : Option Scan :=
  match scan.currentKey with
  | some key => if key.required then none else some (scan.setKey none)
  | none => some scan

/-- Notes that a key may begin here. -/
def noteKey (scan : Scan) : Option Scan :=
  if scan.keyAllowed then
    let key : PossibleKey :=
      { required := !scan.inFlow && scan.indent == scan.column
        position := scan.tokens.size
        mark := scan.cursor.mark }
    scan.dropKey.map (·.setKey (some key))
  else some scan

/-- Whether a possible key reaches too far to be one. -/
def isStale (mark : Mark) (key : PossibleKey) : Bool :=
  key.mark.line < mark.line || key.mark.index + 1024 < mark.index

/-- Gives up all possible keys that reach too far. -/
def dropStaleKeys (scan : Scan) : Option Scan :=
  let stale (key : Option PossibleKey) : Bool := key.any (isStale scan.cursor.mark)
  if scan.keys.any fun key => stale key && key.any (·.required) then none
  else some { scan with keys := scan.keys.map fun key => if stale key then none else key }

/-- Opens a block at a column beyond the current block, its token behind
`position` others. -/
def openBlock (scan : Scan) (column position : Nat) (token : Token) : Scan :=
  if !scan.inFlow && scan.indent < column then
    { scan.insertAt position token with
      indent := column, indents := scan.indent :: scan.indents }
  else scan

/-- Closes the blocks beyond a column. -/
def closeFrom (column : Int) : Int → List Int → TokenLog → Int × List Int × TokenLog
  | indent, [], tokens => (indent, [], tokens)
  | indent, outer :: rest, tokens =>
    if column < indent then closeFrom column outer rest (tokens.push .blockEnd)
    else (indent, outer :: rest, tokens)

def closeBlocks (scan : Scan) (column : Int) : Scan :=
  if scan.inFlow then scan
  else
    let (indent, indents, tokens) := closeFrom column scan.indent scan.indents scan.tokens
    { scan with indent, indents, tokens }

/-- Passes over blanks, comments and line ends, and over a byte order mark at the
start of a line. A tab counts as a blank where no key may begin. -/
def toNextToken : (fuel : Nat) → Scan → Scan
  | 0, scan => scan
  | fuel + 1, scan =>
    let unmarked :=
      if scan.column = 0 && scan.cursor.sees byteOrderMark then scan.cursor.skip 1
      else scan.cursor
    let isBlank (c : Char) : Bool := c == ' ' || (c == '\t' && (scan.inFlow || !scan.keyAllowed))
    let afterBlanks := unmarked.skipWhile isBlank
    let atEnd := if afterBlanks.sees '#' then afterBlanks.skipWhile (!isBreak ·) else afterBlanks
    if atEnd.rest.head?.any isBreak then
      toNextToken fuel
        { scan with cursor := atEnd.skipBreak, keyAllowed := scan.keyAllowed || !scan.inFlow }
    else { scan with cursor := atEnd }

/-! One function for each kind of token. -/

def fetchStreamEnd (scan : Scan) : Option Scan := do
  let closed ← (scan.closeBlocks (-1)).dropKey
  return closed.push .streamEnd

def fetchDirective (scan : Scan) : Option Scan := do
  let closed ← (scan.closeBlocks (-1)).dropKey
  let (directive, after) ← Directive.read? (closed.size + 1) closed.cursor
  return { closed with cursor := after, keyAllowed := false }.push (.directive directive)

def fetchMarker (scan : Scan) (token : Token) : Option Scan := do
  let closed ← (scan.closeBlocks (-1)).dropKey
  return ({ closed with keyAllowed := false }.push token).skip 3

def fetchFlowStart (scan : Scan) (token : Token) : Option Scan := do
  let noted ← scan.noteKey
  return ({ noted with keys := none :: noted.keys, keyAllowed := true }.push token).skip 1

def fetchFlowEnd (scan : Scan) (token : Token) : Option Scan := do
  let dropped ← scan.dropKey
  let keys := if dropped.inFlow then dropped.keys.tail else dropped.keys
  return ({ dropped with keys, keyAllowed := false }.push token).skip 1

def fetchFlowEntry (scan : Scan) : Option Scan := do
  let dropped ← scan.dropKey
  return ({ dropped with keyAllowed := true }.push .flowEntry).skip 1

def fetchBlockEntry (scan : Scan) : Option Scan := do
  if !scan.inFlow && !scan.keyAllowed then none
  else
    let dropped ← (scan.openBlock scan.column scan.tokens.size .blockSequenceStart).dropKey
    return ({ dropped with keyAllowed := true }.push .blockEntry).skip 1

def fetchKey (scan : Scan) : Option Scan := do
  if !scan.inFlow && !scan.keyAllowed then none
  else
    let dropped ← (scan.openBlock scan.column scan.tokens.size .blockMappingStart).dropKey
    return ({ dropped with keyAllowed := !dropped.inFlow }.push .key).skip 1

def fetchValue (scan : Scan) : Option Scan :=
  match scan.currentKey with
  | some key =>
    let keyed := (scan.insertAt key.position .key).openBlock key.mark.column key.position
      .blockMappingStart
    some (({ keyed.setKey none with keyAllowed := false }.push .value).skip 1)
  | none =>
    if !scan.inFlow && !scan.keyAllowed then none
    else
      let opened := scan.openBlock scan.column scan.tokens.size .blockMappingStart
      some (({ opened with keyAllowed := !opened.inFlow }.push .value).skip 1)

def fetchAnchor (scan : Scan) (token : String → Token) : Option Scan := do
  let noted ← scan.noteKey
  let (name, after) ← readAnchor? noted.cursor
  return { noted with cursor := after, keyAllowed := false }.push (token name)

def fetchTag (scan : Scan) : Option Scan := do
  let noted ← scan.noteKey
  let (tag, after) ← TagText.read? (noted.size + 1) noted.inFlow noted.cursor
  return { noted with cursor := after, keyAllowed := false }.push (.tag tag)

def fetchBlockScalar (scan : Scan) (literal : Bool) : Option Scan := do
  let dropped ← scan.dropKey
  let (text, after) ←
    readBlock? (dropped.size + 1) literal dropped.indent (dropped.cursor.skip 1)
  return { dropped with cursor := after, keyAllowed := true }.push
    (.scalar false (String.ofList text))

def fetchQuoted (scan : Scan) (single : Bool) : Option Scan := do
  let noted ← scan.noteKey
  let (text, after) ← readQuoted? (noted.size + 1) single noted.cursor
  return { noted with cursor := after, keyAllowed := false }.push
    (.scalar false (String.ofList text))

def fetchPlain (scan : Scan) : Option Scan := do
  let noted ← scan.noteKey
  let (text, after, lineEnded) ←
    readPlain? (noted.size + 1) noted.inFlow (noted.indent + 1).toNat noted.cursor
  return { noted with cursor := after, keyAllowed := lineEnded }.push
    (.scalar true (String.ofList text))

/-- Whether a plain scalar may begin with this character before that text. A
dash, a question mark or a colon may, if no blank follows. -/
def startsPlain (flow : Bool) (c : Char) (rest : List Char) : Bool :=
  !(isGap c || isIndicator c) || (c == '-' && !rest.head?.any isSpaceOrTab) ||
    (!flow && (c == '?' || c == ':') && !atGap rest)

/-- Reads the token that begins here. -/
def fetchHere (placed : Scan) : Option Scan :=
  match placed.cursor.rest with
  | [] => fetchStreamEnd placed
  | c :: rest =>
    if placed.column == 0 && c == '%' then fetchDirective placed
    else if placed.cursor.seesMarker '-' then fetchMarker placed .documentStart
    else if placed.cursor.seesMarker '.' then fetchMarker placed .documentEnd
    else
      match c with
      | '[' => fetchFlowStart placed .flowSequenceStart
      | '\x7b' => fetchFlowStart placed .flowMappingStart
      | ']' => fetchFlowEnd placed .flowSequenceEnd
      | '\x7d' => fetchFlowEnd placed .flowMappingEnd
      | ',' => fetchFlowEntry placed
      | '*' => fetchAnchor placed .alias
      | '&' => fetchAnchor placed .anchor
      | '!' => fetchTag placed
      | '\'' => fetchQuoted placed true
      | '"' => fetchQuoted placed false
      | c =>
        if c == '-' && atGap rest then fetchBlockEntry placed
        else if c == '?' && (placed.inFlow || atGap rest) then fetchKey placed
        else if c == ':' && (placed.inFlow || atGap rest) then fetchValue placed
        else if c == '|' && !placed.inFlow then fetchBlockScalar placed true
        else if c == '>' && !placed.inFlow then fetchBlockScalar placed false
        else if startsPlain placed.inFlow c rest then fetchPlain placed
        else none

/-- Reads one token, with the tokens that the place of the token brings along.
Markers are looked for first, so four characters have to be readable where the
token begins. -/
def fetch (scan : Scan) : Option Scan := do
  let fresh ← (scan.toNextToken (scan.size + 1)).dropStaleKeys
  if !fresh.canRead 4 then none
  else
    let next ← fetchHere (fresh.closeBlocks fresh.column)
    if next.canRead 1 then next.dropStaleKeys else none

/-- The tokens that are final, those in front of all possible keys. -/
def settled (scan : Scan) : List Token :=
  let first := scan.keys.foldl (fun first key => (key.map (·.position)).elim first (min first))
    scan.tokens.size
  scan.tokens.toList.take first

/-- Reads tokens up to the end of the text or to what breaks the rules. -/
def run : (fuel : Nat) → Scan → List Token
  | 0, scan => scan.settled ++ [.broken]
  | fuel + 1, scan =>
    match scan.fetch with
    | none => scan.settled ++ [.broken]
    | some next =>
      if next.tokens.latest.head? = some .streamEnd then next.tokens.toList else run fuel next

end Scan

/-- The tokens of a text. -/
def Token.ofText (text : List Char) : List Token := (Scan.start text).run (text.length + 2)

end ValuePath.Yaml
