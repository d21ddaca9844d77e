import ValuePath.Program.Config

/-!
The words of the command line. Options may stand anywhere among the other words
up to a double dash, each one once at most; negative numbers are no options.
-/
namespace ValuePath

/-- What a run is asked to do. -/
structure Options where
  path : String
  arguments : List String
  file : Option String
  default : Option String
  output : Option OutputFormat
  rawArguments : Bool
  verbosity : Nat

inductive Command where
  | lookup (options : Options)
  | help
  | version
  /-- The words cannot be understood. -/
  | misuse

namespace Command

/-- The words taken so far. -/
structure Taken where
  positional : List String
  file : Option String
  default : Option String
  output : Option OutputFormat
  rawArguments : Bool
  verbosity : Nat

/-- An option with a value. -/
inductive Setting where
  | file
  | default
  | output

/-- How reading goes on after a word. -/
inductive Progress where
  | next (taken : Taken)
  /-- The next word has to be a value. -/
  | awaiting (setting : Setting) (taken : Taken)
  | stop (command : Command)

def Taken.add (taken : Taken) (words : List String) : Taken :=
  { taken with positional := taken.positional ++ words }

/-- Gives a value to an option that has none yet. -/
def Taken.give (taken : Taken) (setting : Setting) (value : String) : Progress :=
  match setting with
  | .file => if taken.file.isSome then .stop misuse else .next { taken with file := some value }
  | .default =>
    if taken.default.isSome then .stop misuse else .next { taken with default := some value }
  | .output =>
    match taken.output, OutputFormat.ofName? value with
    | none, some format => .next { taken with output := some format }
    | _, _ => .stop misuse

def Taken.setRaw (taken : Taken) : Progress :=
  if taken.rawArguments then .stop misuse else .next { taken with rawArguments := true }

def Taken.raiseVerbosity (taken : Taken) : Taken :=
  { taken with verbosity := taken.verbosity + 1 }

/-- What remains of a number behind its minus sign: digits with a point among them
and an exponent behind them, if any; neither comes first. -/
def isNumberRest : (pointAllowed exponentAllowed : Bool) → List Char → Bool
  | _, _, [] => true
  | pointAllowed, exponentAllowed, c :: rest =>
    if Numeric.isDecimalDigit c then isNumberRest pointAllowed exponentAllowed rest
    else if c = '.' then pointAllowed && isNumberRest false exponentAllowed rest
    else if c = 'e' then exponentAllowed && !rest.isEmpty && isNumberRest false false rest
    else false

/-- Whether a text behind a minus sign makes a negative number of it. -/
def isNumber (text : List Char) : Bool :=
  match text with
  | c :: rest => Numeric.isDecimalDigit c && isNumberRest true true rest
  | [] => true

/-- Whether a word asks to be taken as an option. -/
def looksLikeOption (word : List Char) : Bool :=
  match word with
  | '-' :: '-' :: _ => true
  | '-' :: c :: rest => !isNumber (c :: rest)
  | _ => false

/-- Takes an option by its long name, with the text behind an equals sign. -/
def takeLong (taken : Taken) (name : List Char) (value : Option (List Char)) : Progress :=
  let withValue (setting : Setting) : Progress :=
    match value with
    | some text => taken.give setting (String.ofList text)
    | none => .awaiting setting taken
  let flag (progress : Progress) : Progress := if value.isSome then .stop misuse else progress
  match String.ofList name with
  | "file" => withValue .file
  | "default" => withValue .default
  | "output" => withValue .output
  | "raw-args" => flag taken.setRaw
  | "verbose" => flag (.next taken.raiseVerbosity)
  | "help" => flag (.stop help)
  | "version" => flag (.stop version)
  | _ => .stop misuse

/-- Takes a run of short options. The text behind one with a value is that value,
without an equals sign in front. -/
def takeShort (taken : Taken) : List Char → Progress
  | [] => .next taken
  | c :: rest =>
    let withValue (setting : Setting) : Progress :=
      match rest with
      | [] => .awaiting setting taken
      | '=' :: value => taken.give setting (String.ofList value)
      | value => taken.give setting (String.ofList value)
    match c with
    | 'f' => withValue .file
    | 'd' => withValue .default
    | 'o' => withValue .output
    | 'v' => takeShort taken.raiseVerbosity rest
    | 'h' => .stop help
    | 'V' => .stop version
    | _ => .stop misuse

/-- Takes a word that is not a value. -/
def take (taken : Taken) (word : String) : Progress :=
  match word.toList with
  | '-' :: '-' :: long =>
    let name := long.takeWhile (· != '=')
    let hasValue := name.length < long.length
    takeLong taken name (if hasValue then some (long.drop (name.length + 1)) else none)
  | '-' :: short =>
    if looksLikeOption word.toList then takeShort taken short else .next (taken.add [word])
  | _ => .next (taken.add [word])

/-- The command for all words taken. The first one that is no option is the path. -/
def finish (taken : Taken) : Command :=
  match taken.positional with
  | [] => misuse
  | path :: arguments =>
    lookup { taken with path, arguments }

/-- Takes words up to the last one. -/
def takeAll : Progress → List String → Command
  | .stop command, _ => command
  | .awaiting _ _, [] => misuse
  | .awaiting setting taken, word :: rest =>
    if looksLikeOption word.toList then misuse else takeAll (taken.give setting word) rest
  | .next taken, [] => finish taken
  | .next taken, word :: rest =>
    if word = "--" then finish (taken.add rest) else takeAll (take taken word) rest

/-- The command that the words of the command line give. -/
def ofWords (words : List String) : Command :=
  takeAll (.next ⟨[], none, none, none, false, 0⟩) words

end Command
end ValuePath
