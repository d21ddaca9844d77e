import ValuePath.Toml.Reader
import ValuePath.Text.Utf8
import ValuePath.Lookup.Evaluate

/-!
The settings of the program and the file they are kept in. The file may leave out
any setting, and one that cannot be used counts for nothing.
-/
namespace ValuePath

/-- How results are printed. -/
inductive OutputFormat where
  | yaml
  | json
  deriving DecidableEq

namespace OutputFormat

def name : OutputFormat → String
  | yaml => "yaml"
  | json => "json"

def ofName? (text : String) : Option OutputFormat :=
  if text = yaml.name then some yaml else if text = json.name then some json else none

end OutputFormat

structure Config where
  /-- How many matching overloads are worth a warning. -/
  ambiguityThreshold : UInt64
  outputFormat : OutputFormat
  /-- Whether arguments are read as YAML; otherwise each one is a string. -/
  typedArguments : Bool
  /-- The exit code for a result that is null. -/
  nullExitCode : UInt8
  deriving DecidableEq

namespace Config

def default : Config where
  ambiguityThreshold := UInt64.ofNat Evaluator.defaultThreshold
  outputFormat := .yaml
  typedArguments := true
  nullExitCode := 1

/-- A setting that is a number up to some bound. -/
def natural? (name : String) (usual bound : Nat) (table : Toml.Table) : Option Nat :=
  match Entries.find? name table with
  | none => some usual
  | some (.integer n) => if 0 ≤ n.toInt ∧ n.toInt ≤ bound then some n.toInt.toNat else none
  | some _ => none

def boolean? (name : String) (usual : Bool) (table : Toml.Table) : Option Bool :=
  match Entries.find? name table with
  | none => some usual
  | some (.boolean value) => some value
  | some _ => none

/-- A format is named by a string, or by the only key of a table, with nothing in it. -/
def format? (name : String) (usual : OutputFormat) (table : Toml.Table) :
    Option OutputFormat :=
  match Entries.find? name table with
  | none => some usual
  | some (.string text) => OutputFormat.ofName? text
  | some (.table _ [(text, .table _ [])]) | some (.table _ [(text, .array [])]) =>
    OutputFormat.ofName? text
  | some _ => none

/-- The settings that a table holds. Keys that are no settings do not count. -/
def ofTable? (table : Toml.Table) : Option Config := do
  let threshold ←
    natural? "ambiguity_threshold" default.ambiguityThreshold.toNat (Nat.pow 2 63 - 1) table
  let outputFormat ← format? "output_format" default.outputFormat table
  let typedArguments ← boolean? "typed_arguments" default.typedArguments table
  let code ← natural? "null_exit_code" default.nullExitCode.toNat 255 table
  return {
    ambiguityThreshold := UInt64.ofNat threshold
    outputFormat, typedArguments
    nullExitCode := UInt8.ofNat code }

/-- The settings that a text holds. -/
def parse? (text : List Char) : Option Config := (Toml.parse? text).bind ofTable?

/-- The text for all settings. The threshold has to fit in 63 bits. -/
def write? (config : Config) : Option String :=
  if config.ambiguityThreshold.toNat < Nat.pow 2 63 then
    some ("ambiguity_threshold = " ++ toString config.ambiguityThreshold.toNat ++ "\n" ++
      "output_format = \"" ++ config.outputFormat.name ++ "\"\n" ++
      "typed_arguments = " ++ (if config.typedArguments then "true" else "false") ++ "\n" ++
      "null_exit_code = " ++ toString config.nullExitCode.toNat ++ "\n")
  else none

/-- The directory of the file, seen from the home directory. -/
def directory : String := ".config/pathquill"

/-- The file, seen from the home directory. -/
def file : String := directory ++ "/config.toml"

/-- What there is at the place of the file. -/
inductive Place where
  /-- The file with this content, or none yet in a directory that can be made. -/
  | file (content : Option (List UInt8))
  /-- Something else where a directory belongs. -/
  | obstructed
  /-- A directory where the file belongs. -/
  | directory
  deriving DecidableEq

/-- What there is at the place of the file if this is all that stands on the way
to it: a file, or a directory. -/
def Place.behind (path : String) (isDirectory : Bool) : Place :=
  if path = Config.file then if isDirectory then .directory else .file (some [])
  else if !isDirectory && (path ++ "/").toList.isPrefixOf Config.file.toList then .obstructed
  else .file none

/-- The settings that are in force, and whether the file was ignored because what
it says is invalid. A file that is not text is ignored without a word. -/
def load : Place → Config × Bool
  | .file (some bytes) =>
    match Text.decode? bytes with
    | none => (default, false)
    | some text =>
      match parse? text.toList with
      | some config => (config, false)
      | none => (default, true)
  | _ => (default, false)

/-- Why settings cannot be saved. -/
inductive SaveError where
  | noDirectory
  | outOfRange
  | noFile
  deriving DecidableEq

def SaveError.message : SaveError → String
  | noDirectory => "Failed to create " ++ Config.directory
  | outOfRange => "out-of-range value for u64 type"
  | noFile => "Failed to write " ++ Config.file

/-- Saves the settings. Gives what is there afterwards, and why if nothing was saved. -/
def save (config : Config) (place : Place) : Place × Option SaveError :=
  match place with
  | .obstructed => (place, some .noDirectory)
  | _ =>
    match config.write? with
    | none => (place, some .outOfRange)
    | some text =>
      match place with
      | .directory => (place, some .noFile)
      | _ => (.file (some (Text.encode text)), none)

end Config
end ValuePath
