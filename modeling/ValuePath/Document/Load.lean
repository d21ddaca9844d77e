import ValuePath.Document.Convert
import ValuePath.Json.Reader
import ValuePath.Gzip.Member
import ValuePath.Text.Lines
import ValuePath.Text.Utf8

/-!
Loading documents from text, from files and from standard input. YAML is the
usual format, and JSON documents are YAML; files of lines hold a JSON document
on every line. Compressed files are known by their names, compressed input by its
first bytes.
-/
namespace ValuePath

open Yaml (Node)

/-- Why nothing can be loaded. -/
inductive LoadError where
  /-- The file cannot be read as text. -/
  | unreadable (name : String)
  /-- There is no compressed file. -/
  | unopened
  /-- A compressed file does not hold text. -/
  | corruptFile
  /-- Compressed input does not hold text. -/
  | corruptInput
  /-- Input is not text. -/
  | notText
  /-- There is neither a file nor input. -/
  | noInput
  /-- The document with this number is no YAML. -/
  | invalidDocument (number : Nat)
  /-- The line with this number is no JSON. -/
  | invalidLine (number : Nat)
  /-- There are only blank lines. -/
  | noLines
  /-- A file cannot be parsed, for this reason. -/
  | inFile (name : String) (cause : LoadError)
  /-- Input is neither documents nor lines, the latter for this reason. -/
  | neither (cause : LoadError)
  deriving DecidableEq

namespace LoadError

/-- The message of the error itself. -/
def headline : LoadError → String
  | unreadable name => "Failed to read file " ++ name
  | unopened => "Failed to open gzipped file"
  | corruptFile => "Failed to decompress gzipped file - file may be corrupted"
  | corruptInput => "Failed to decompress gzipped stdin"
  | notText => "Invalid UTF-8 in stdin"
  | noInput => "No input: pass --file or pipe a document on stdin"
  | invalidDocument number => "Invalid YAML in document " ++ toString number
  | invalidLine number => "Invalid JSON on line " ++ toString number
  | noLines => "No valid JSON found in JSONL content"
  | inFile name _ => "Failed to parse " ++ name
  | neither _ => "Failed to parse stdin: input is neither valid YAML nor valid JSONL"

/-- The messages of the error and of its causes. -/
def messages : LoadError → List String
  | inFile name cause => (inFile name cause).headline :: cause.messages
  | neither cause => (neither cause).headline :: cause.messages
  | error => [error.headline]

/-- The whole message. -/
def message (error : LoadError) : String := String.intercalate ": " error.messages

end LoadError

namespace Document

/-- The values of documents that are counted from `number` on. -/
def values (number : Nat) : List (Option Node) → Except LoadError (List Value)
  | [] => .ok []
  | none :: _ => .error (.invalidDocument number)
  | some node :: rest => (values (number + 1) rest).map (Value.ofYaml node :: ·)

/-- One document is its value, and several documents are a list. -/
def join : List Value → Value
  | [] => .null
  | [value] => value
  | values => .list values

/-- The value of a YAML text. -/
def parse (text : List Char) : Except LoadError Value :=
  (values 1 (Node.documents text)).map join

/-- The values of JSON lines that are counted from `number` on. Blank lines are
passed over. -/
def lineValues (number : Nat) : List (List Char) → Except LoadError (List Value)
  | [] => .ok []
  | line :: rest =>
    if Text.isBlankText line then lineValues (number + 1) rest
    else
      match Json.parse? line with
      | none => .error (.invalidLine number)
      | some json => (lineValues (number + 1) rest).map (Value.ofJson json :: ·)

/-- The list of the values of JSON lines, of which there has to be one at least. -/
def parseLines (text : List Char) : Except LoadError Value :=
  match lineValues 1 (Text.lines text) with
  | .ok [] => .error .noLines
  | .ok values => .ok (.list values)
  | .error error => .error error

/-- The characters that bytes encode. -/
def decodeText? (bytes : List UInt8) : Option (List Char) :=
  (Text.decode? bytes).map String.toList

/-- The characters that compressed bytes encode. -/
def decompressText? (bytes : List UInt8) : Option (List Char) :=
  (Gzip.decompress? bytes).bind decodeText?

/-- The name of a file without the directories around it. Empty steps and steps
to the same place do not count. -/
def baseName (name : List Char) : List Char :=
  (((name.splitOn '/').filter fun step => !(step.isEmpty || step == ['.'])).getLast?).getD []

/-- Whether the name says that a file is compressed, by an extension that is not
the whole name. -/
def isCompressedName (name : List Char) : Bool :=
  match (baseName name).reverse with
  | 'z' :: 'g' :: '.' :: _ :: _ => true
  | _ => false

/-- Whether the name, perhaps without the extension of a compressed file, is that
of a file of lines. -/
def isLinesName (name : List Char) : Bool :=
  let kept := match name.reverse with
    | 'z' :: 'g' :: '.' :: rest => rest.reverse
    | _ => name
  ".jsonl".toList.isSuffixOf kept || ".ndjson".toList.isSuffixOf kept

/-- The text of a file, given its bytes if it is there. -/
def readFile (name : String) (content : Option (List UInt8)) : Except LoadError (List Char) :=
  if isCompressedName name.toList then
    match content with
    | none => .error .unopened
    | some bytes => (decompressText? bytes).elim (.error .corruptFile) .ok
  else (content.bind decodeText?).elim (.error (.unreadable name)) .ok

/-- The value of a file, given its bytes if it is there. -/
def load (name : String) (content : Option (List UInt8)) : Except LoadError Value := do
  let text ← readFile name content
  if isLinesName name.toList then parseLines text
  else (parse text).mapError (.inFile name)

/-- The text of input. -/
def readInput (bytes : List UInt8) : Except LoadError (List Char) :=
  if Gzip.magic.isPrefixOf bytes then (decompressText? bytes).elim (.error .corruptInput) .ok
  else (decodeText? bytes).elim (.error .notText) .ok

/-- The value of the text of input: that of its documents, or else that of its lines. -/
def parseInput (text : List Char) : Except LoadError Value :=
  match parse text with
  | .ok value => .ok value
  | .error _ => (parseLines text).mapError .neither

/-- The value of input. -/
def loadInput (bytes : List UInt8) : Except LoadError Value := readInput bytes >>= parseInput

end Document
end ValuePath
