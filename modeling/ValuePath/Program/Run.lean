import ValuePath.Program.Arguments
import ValuePath.Path.Parser
import ValuePath.Document.Load
import ValuePath.Json.Writer

/-!
A run of the program: from the words of the command line, the settings, the files
and the input to what is printed and the exit code.
-/
namespace ValuePath

/-- Something worth a line in the log. -/
inductive LogEntry where
  /-- The file with the settings is invalid. -/
  | ignoredConfig
  /-- A path is about to be followed with this many arguments. -/
  | evaluating (path : Path) (count : Nat)
  | lookup (record : LookupRecord)

namespace LogEntry

/-- Whether an entry is shown without being asked for. -/
def isWarning : LogEntry → Bool
  | ignoredConfig => true
  | evaluating .. => false
  | lookup (.ambiguous ..) => true
  | lookup (.unresolved ..) => false

def message : LogEntry → String
  | ignoredConfig => "ignoring invalid config"
  | evaluating path count =>
    "evaluating '" ++ path.display ++ "' with " ++ toString count ++ " argument(s)"
  | lookup record => record.message

end LogEntry

/-- What a run leaves behind. -/
structure Outcome where
  exitCode : UInt8
  output : String
  /-- Why there is no output. -/
  error : Option LoadError
  log : List LogEntry

namespace Program

/-- What a run finds around it. -/
structure Surroundings where
  config : Config.Place
  /-- The bytes of the files that are there. -/
  files : String → Option (List UInt8)
  /-- The bytes of the input; there are none at a terminal. -/
  input : Option (List UInt8)

/-- The value of an argument. With types it is that of a YAML document, unless the
word is no single document; otherwise it is the word itself. -/
def parseArgument (typed : Bool) (word : String) : Value :=
  if typed then
    match Yaml.Node.ofText? word.toList with
    | some node => Value.ofYaml node
    | none => .string word
  else .string word

/-- The text of a value, with the end of its last line. -/
def render (format : OutputFormat) (value : Value) : String :=
  match Objects.empty.tree 0 value, format with
  | none, _ => ""
  | some tree, .yaml => Yaml.write tree
  | some tree, .json => Json.write .pretty tree ++ "\n"

/-- The document that paths are followed in. -/
def loadDocument (surroundings : Surroundings) (file : Option String) : Except LoadError Value :=
  match file with
  | some name => Document.load name (surroundings.files name)
  | none =>
    match surroundings.input with
    | some bytes => Document.loadInput bytes
    | none => .error .noInput

/-- Follows the path. Prints what it leads to, or else the default, or else null. -/
def lookup (config : Config) (surroundings : Surroundings) (options : Options) : Outcome :=
  match loadDocument surroundings options.file with
  | .error error => ⟨1, "", some error, []⟩
  | .ok document =>
    let format := options.output.getD config.outputFormat
    let typed := config.typedArguments && !options.rawArguments
    let arguments := options.arguments.map (parseArgument typed)
    let path := Path.parse options.path
    let evaluator : Evaluator := ⟨Objects.empty, arguments, config.ambiguityThreshold.toNat⟩
    let (found, records) := evaluator.evaluate document path
    let log := .evaluating path arguments.length :: records.map .lookup
    match found, options.default with
    | some value, _ => ⟨0, render format value, none, log⟩
    | none, some word => ⟨0, render format (parseArgument typed word), none, log⟩
    | none, none => ⟨config.nullExitCode, "null\n", none, log⟩

/-- The entries that a run shows. -/
def shown (verbosity : Nat) (log : List LogEntry) : List LogEntry :=
  if verbosity = 0 then log.filter LogEntry.isWarning else log

def versionText : String := "pathquill 0.1.0\n"

def helpText : String :=
  "Evaluate lookup paths against YAML and JSON documents\n\n" ++
  "Usage: pathquill [OPTIONS] <PATH> [ARGS]...\n\n" ++
  "Arguments:\n" ++
  "  <PATH>     Lookup path, e.g. 'users[0].name.substring(\x7b0\x7d,\x7b1\x7d)'\n" ++
  "  [ARGS]...  Arguments substituted for \x7b0\x7d, \x7b1\x7d, ... in method calls\n\n" ++
  "Options:\n" ++
  "  -f, --file <FILE>        " ++
  "Document to read (YAML, JSON, JSONL, optionally .gz); stdin if omitted\n" ++
  "  -d, --default <DEFAULT>  Value printed when the path does not resolve\n" ++
  "  -o, --output <OUTPUT>    " ++
  "Output format (overrides the config file) [possible values: yaml, json]\n" ++
  "      --raw-args           " ++
  "Pass arguments as strings instead of parsing them as YAML scalars\n" ++
  "  -v, --verbose...         Log more (-v debug, -vv trace)\n" ++
  "  -h, --help               Print help\n" ++
  "  -V, --version            Print version\n"

/-- Runs a command. -/
def execute (surroundings : Surroundings) : Command → Outcome
  | .help => ⟨0, helpText, none, []⟩
  | .version => ⟨0, versionText, none, []⟩
  | .misuse => ⟨2, "", none, []⟩
  | .lookup options =>
    let (config, ignored) := Config.load surroundings.config
    let outcome := lookup config surroundings options
    let log := if ignored then .ignoredConfig :: outcome.log else outcome.log
    { outcome with log := shown options.verbosity log }

/-- Runs the program. -/
def run (words : List String) (surroundings : Surroundings) : Outcome :=
  execute surroundings (Command.ofWords words)

end Program
end ValuePath
