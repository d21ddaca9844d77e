import Mathlib.Data.List.Forall2
import ValuePath.Proofs.CommandWords
import ValuePath.Proofs.InputRoutes
import ValuePath.Proofs.LookupComposition
import ValuePath.Proofs.PrintedResults
import ValuePath.Proofs.SavedSettings

/-! What the options of the command line change. A default stands in for a result that
is missing or null and for nothing else, arguments that are taken as they are make the
same run as the setting for it does, and a run that logs more prints the same. -/
namespace ValuePath.OptionEffects
open Program Command CommandWords PrintedResults

/-- What scripts see of a run. -/
def seen (outcome : Outcome) : String × UInt8 := (outcome.output, outcome.exitCode)

/-- The text of a tree, with the end of its last line. -/
def written : OutputFormat → Tree → String
  | .yaml, tree => Yaml.write tree
  | .json, tree => Json.write .pretty tree ++ "\n"

/-- The run succeeds and prints the value. -/
def Prints (outcome : Outcome) (format : OutputFormat) (value : Value) : Prop :=
  ∃ tree, Objects.empty.tree 0 value = some tree ∧ seen outcome = (written format tree, 0)

/-- What a word stands for. Without types it is a string. With types it is the value of the
document that it is in YAML, and a string only if it is no single document with a value. -/
inductive StandsFor (word : String) : (typed : Bool) → Value → Prop where
  | plain : StandsFor word false (.string word)
  | document (single : Yaml.Node.ofText? word.toList = some node) :
      StandsFor word true (Value.ofYaml node)
  | verbatim (none : Yaml.Node.ofText? word.toList = none) : StandsFor word true (.string word)

theorem standsFor_iff {word : String} {typed : Bool} {value : Value} :
    StandsFor word typed value ↔ value = parseArgument typed word := by
  constructor
  · intro stands
    cases stands with
    | plain => rfl
    | document single => rw [parseArgument, if_pos rfl, single]
    | verbatim none => rw [parseArgument, if_pos rfl, none]
  · rintro rfl
    cases typed with
    | false => exact .plain
    | true =>
      rw [parseArgument, if_pos rfl]
      cases single : Yaml.Node.ofText? word.toList with
      | none => exact .verbatim single
      | some node => exact .document single

theorem stand_iff {words : List String} {typed : Bool} {values : List Value} :
    List.Forall₂ (StandsFor · typed) words values ↔ values = words.map (parseArgument typed) := by
  have same : (StandsFor · typed) = fun word value => parseArgument typed word = value :=
    funext₂ fun word value => propext (standsFor_iff.trans eq_comm)
  rw [same, ← List.forall₂_map_left_iff (R := Eq), List.forall₂_eq_eq_eq, eq_comm]

/-! ## Lookups -/

section Lookups
variable (config : Config) (options : Options)

/-- The format of the output. -/
def format : OutputFormat := options.output.getD config.outputFormat

/-- Whether arguments and the default are read as YAML. -/
def typed : Bool := config.typedArguments && !options.rawArguments

/-- What the path is followed with. -/
def evaluator (values : List Value) : Evaluator :=
  ⟨Objects.empty, values, config.ambiguityThreshold.toNat⟩

/-- With what the arguments stand for, the path resolves in the document to a value, which is
not null. -/
def Resolves (document value : Value) : Prop :=
  ∃ values, List.Forall₂ (StandsFor · (typed config options)) options.arguments values ∧
    (evaluator config values).tryEvaluate document (Path.parse options.path) = .ok value ∧
      value ≠ .null

/-- Where the path leads. -/
def reached (document : Value) : Except EvalError Value :=
  (evaluator config (options.arguments.map (parseArgument (typed config options)))).tryEvaluate
    document (Path.parse options.path)

variable {config options} {document value : Value}

theorem resolves_iff : Resolves config options document value ↔
    reached config options document = .ok value ∧ value ≠ .null := by
  simp only [Resolves, stand_iff, exists_eq_left]
  rfl

theorem found_of_resolves (resolves : Resolves config options document value) :
    LookupComposition.found (reached config options document) = some value := by
  obtain ⟨reached, nonNull⟩ := resolves_iff.mp resolves
  rw [reached]
  cases value with
  | null => exact absurd rfl nonNull
  | _ => rfl

theorem found_of_unresolved (nowhere : ∀ value, ¬Resolves config options document value) :
    LookupComposition.found (reached config options document) = none := by
  cases led : reached config options document with
  | error error => rfl
  | ok value =>
    cases value with
    | null => rfl
    | _ => exact absurd (resolves_iff.mpr ⟨led, nofun⟩) (nowhere _)

/-- What a lookup prints in a document that loads. -/
theorem seen_lookup {surroundings : Surroundings}
    (loads : loadDocument surroundings options.file = .ok document) :
    seen (lookup config surroundings options) =
      match LookupComposition.found (reached config options document), options.default with
      | some value, _ => (render (format config options) value, 0)
      | none, some word =>
        (render (format config options) (parseArgument (typed config options) word), 0)
      | none, none => ("null\n", config.nullExitCode) := by
  rw [reached, ← LookupComposition.evaluate_found, Program.lookup, loads]
  simp only [evaluator, format, typed]
  generalize Evaluator.evaluate _ document (Path.parse options.path) = evaluated
  obtain ⟨found, records⟩ := evaluated
  cases found <;> cases options.default <;> rfl

theorem seen_unloaded {surroundings : Surroundings} {error : LoadError}
    (fails : loadDocument surroundings options.file = .error error) :
    seen (lookup config surroundings options) = ("", 1) := by
  rw [Program.lookup, fails]
  rfl

theorem render_printable (printable : Printable value) (format : OutputFormat) :
    ∃ tree, Objects.empty.tree 0 value = some tree ∧ render format value = written format tree := by
  obtain ⟨tree, written⟩ := Option.isSome_iff_exists.mp printable
  refine ⟨tree, written, ?_⟩
  cases format <;> simp only [render, written] <;> rfl

end Lookups

/-- Arguments that are taken as they are make the lookup that the setting makes. -/
theorem lookup_raw (config : Config) (surroundings : Surroundings) (place : Config.Place)
    (options : Options) :
    Program.lookup config surroundings { options with rawArguments := true } =
      Program.lookup { config with typedArguments := false }
        { surroundings with config := place } options := by
  have withOption : (config.typedArguments && !true) = false := Bool.and_false _
  have withSetting : (false && !options.rawArguments) = false := Bool.false_and _
  simp only [Program.lookup, withOption, withSetting]
  rfl

/-! ## Runs -/

/-- The settings in force. -/
def settings (surroundings : Surroundings) : Config := (Config.load surroundings.config).1

/-- What is seen of a run is what is seen of its lookup: logging has no part in it. -/
theorem seen_run {words : List String} {options : Options}
    (given : ofWords words = .lookup options) (surroundings : Surroundings) :
    seen (run words surroundings) =
      seen (Program.lookup (settings surroundings) surroundings options) := by
  rw [run, given]
  rfl

/-- What the options change about the run that some words ask for. -/
structure AsDocumented (surroundings : Surroundings) (words : List String)
    (options : Options) : Prop where
  /-- A document that does not load ends the run, whatever is looked up in it. -/
  unloaded : ∀ error, loadDocument surroundings options.file = .error error →
    ∀ more path arguments default,
      ofWords more = .lookup { options with path, arguments, default } →
        seen (run more surroundings) = ("", 1)
  /-- A value that is found is printed, and a default changes nothing about that. -/
  resolved : ∀ document value, loadDocument surroundings options.file = .ok document →
    Resolves (settings surroundings) options document value → options.default = none →
      Prints (run words surroundings) (format (settings surroundings) options) value ∧
      ∀ more word, ofWords more = .lookup { options with default := some word } →
        seen (run more surroundings) = seen (run words surroundings)
  /-- Where nothing is found there is a null, or else what the default stands for, like any
  value. -/
  unresolved : ∀ document, loadDocument surroundings options.file = .ok document →
    (∀ value, ¬Resolves (settings surroundings) options document value) →
      options.default = none →
      seen (run words surroundings) = ("null\n", (settings surroundings).nullExitCode) ∧
      ∀ more word, ofWords more = .lookup { options with default := some word } →
        ∃ value, StandsFor word (typed (settings surroundings) options) value ∧
          Prints (run more surroundings) (format (settings surroundings) options) value
  /-- Arguments are taken as they are by the option as by the setting. -/
  raw : options.rawArguments = false →
    (∃ place, Config.load place = ({ settings surroundings with typedArguments := false }, false)) ∧
    ∀ more place, ofWords more = .lookup { options with rawArguments := true } →
      (Config.load place).1 = { settings surroundings with typedArguments := false } →
        seen (run more surroundings) = seen (run words { surroundings with config := place })
  /-- Logging changes nothing. -/
  verbose : ∀ more verbosity, ofWords more = .lookup { options with verbosity } →
    seen (run more surroundings) = seen (run words surroundings)
  /-- An option that is not given yet may be put wherever no other one waits for its value,
  so that there are words for all of these runs. -/
  insertion : ∀ (added : Added) before after, words = before ++ after → "--" ∉ before →
    (∃ taken, behind (.next start) before = .next taken) → added.Lacks options →
      ofWords (before ++ added.word :: after) = .lookup (added.change options)

section Runs
variable {surroundings : Surroundings} {words : List String} {options : Options}
  {document value : Value}

theorem run_resolved (given : ofWords words = .lookup options)
    (loads : loadDocument surroundings options.file = .ok document)
    (resolves : Resolves (settings surroundings) options document value) :
    seen (run words surroundings) =
      (render (format (settings surroundings) options) value, 0) := by
  rw [seen_run given, seen_lookup loads, found_of_resolves resolves]

theorem run_unresolved (given : ofWords words = .lookup options)
    (loads : loadDocument surroundings options.file = .ok document)
    (nowhere : ∀ value, ¬Resolves (settings surroundings) options document value) :
    seen (run words surroundings) =
      match options.default with
      | some word => (render (format (settings surroundings) options)
          (parseArgument (typed (settings surroundings) options) word), 0)
      | none => ("null\n", (settings surroundings).nullExitCode) := by
  rw [seen_run given, seen_lookup loads, found_of_unresolved nowhere]
  cases options.default <;> rfl

/-- What a lookup reaches in a document can be printed. -/
theorem resolves_printable (loads : loadDocument surroundings options.file = .ok document)
    (resolves : Resolves (settings surroundings) options document value) : Printable value :=
  walk_printed _ _ (printable_document loads) (Path.parse options.path) value
    (resolves_iff.mp resolves).1

theorem prints_of_seen {outcome : Outcome} {format : OutputFormat} (printable : Printable value)
    (shown : seen outcome = (render format value, 0)) : Prints outcome format value := by
  obtain ⟨tree, written, text⟩ := render_printable printable format
  exact ⟨tree, written, by rw [shown, text]⟩

/-- The options of the command line have their own effects and no others, in every
run that words ask for, whatever the settings, the files and the input are. -/
theorem options_act_as_documented (surroundings : Surroundings)
    (given : ofWords words = .lookup options) : AsDocumented surroundings words options where
  unloaded error fails more path arguments default asked := by
    rw [seen_run asked]
    exact seen_unloaded fails
  resolved document value loads resolves _ := by
    have shown := run_resolved given loads resolves
    refine ⟨prints_of_seen (resolves_printable loads resolves) shown, fun more word asked => ?_⟩
    -- The path is followed without looking at the default.
    have still : Resolves (settings surroundings) { options with default := some word } document
        value := resolves
    have again := run_resolved asked loads still
    rw [shown]
    exact again
  unresolved document loads nowhere undecided := by
    refine ⟨?_, fun more word asked => ?_⟩
    · rw [run_unresolved given loads nowhere, undecided]
    · exact ⟨_, standsFor_iff.mpr rfl,
        prints_of_seen (printable_argument _ word) (run_unresolved asked loads nowhere)⟩
  raw _ := by
    refine ⟨SavedSettings.load_exists (SavedSettings.bound_of_load surroundings.config),
      fun more place asked loaded => ?_⟩
    have setting : settings { surroundings with config := place } =
        { settings surroundings with typedArguments := false } := loaded
    rw [seen_run asked, seen_run given, setting]
    exact congrArg seen (lookup_raw _ surroundings place options)
  verbose more verbosity asked := by
    rw [seen_run asked, seen_run given]
    rfl
  insertion added before after same undivided between lacks := by
    obtain ⟨taken, between⟩ := between
    rw [same] at given
    exact ofWords_insert given lacks undivided between

/-- What is seen where a default stands in, once its tree is known. -/
theorem AsDocumented.seen_default (documented : AsDocumented surroundings words options)
    (loads : loadDocument surroundings options.file = .ok document)
    (nowhere : ∀ value, ¬Resolves (settings surroundings) options document value)
    (undecided : options.default = none) (more : List String) (word : String)
    (asked : ofWords more = .lookup { options with default := some word }) {tree : Tree}
    (stands : Objects.empty.tree 0
      (parseArgument (typed (settings surroundings) options) word) = some tree) :
    seen (run more surroundings) = (written (format (settings surroundings) options) tree, 0) := by
  obtain ⟨-, filled⟩ := documented.unresolved document loads nowhere undecided
  obtain ⟨value, meant, other, same, shown⟩ := filled more word asked
  obtain rfl := standsFor_iff.mp meant
  rw [shown, Option.some.inj (same.symm.trans stands)]

end Runs

/-- A false in a list is printed with a default as without one; behind the list there is the
default, as the number or as the text that it stands for, or else a null with the usual exit
code. -/
theorem default_stands_in_behind_list :
    let surroundings : Surroundings :=
      ⟨.file none, fun _ => none, some (Text.encode "[false]\n")⟩
    seen (run ["[0]"] surroundings) = ("false\n", 0) ∧
      seen (run ["--default=5", "[0]"] surroundings) = ("false\n", 0) ∧
      seen (run ["[1]"] surroundings) = ("null\n", 1) ∧
      seen (run ["--default=5", "[1]"] surroundings) = ("5\n", 0) ∧
      seen (run ["--default=5", "--raw-args", "[1]"] surroundings) = ("'5'\n", 0) ∧
      seen (run ["--default=5", "--raw-args", "--output=json", "[1]"] surroundings) =
        ("\"5\"\n", 0) ∧
      seen (run ["-v", "[0]"] surroundings) = ("false\n", 0) := by
  intro surroundings
  let options (path : String) (raw : Bool) (output : Option OutputFormat) : Options :=
    ⟨path, [], none, none, output, raw, 0⟩
  have inside := options_act_as_documented surroundings
    (rfl : ofWords ["[0]"] = .lookup (options "[0]" false none))
  have outside := options_act_as_documented surroundings
    (rfl : ofWords ["[1]"] = .lookup (options "[1]" false none))
  have outsideRaw := options_act_as_documented surroundings
    (rfl : ofWords ["--raw-args", "[1]"] = .lookup (options "[1]" true none))
  have outsideJson := options_act_as_documented surroundings
    (rfl : ofWords ["--raw-args", "--output=json", "[1]"] =
      .lookup (options "[1]" true (some .json)))
  have parsed : Document.parse "[false]\n".toList = .ok (.list [.boolean false]) := rfl
  have loads : loadDocument surroundings none = .ok (.list [.boolean false]) :=
    InputRoutes.loadInput_document (InputRoutes.readInput_plain "[false]\n") parsed
  have first : Path.parse "[0]" = ⟨[.index (some 0)]⟩ := by decide +kernel
  have second : Path.parse "[1]" = ⟨[.index (some 1)]⟩ := by decide +kernel
  have resolves : Resolves (settings surroundings) (options "[0]" false none)
      (.list [.boolean false]) (.boolean false) := by
    refine resolves_iff.mpr ⟨?_, nofun⟩
    rw [reached, first]
    rfl
  have nowhere (raw : Bool) (output : Option OutputFormat) (value : Value) :
      ¬Resolves (settings surroundings) (options "[1]" raw output) (.list [.boolean false])
        value := by
    intro resolves
    obtain ⟨led, -⟩ := resolves_iff.mp resolves
    rw [reached, second] at led
    cases led
  obtain ⟨⟨tree, written, shown⟩, kept⟩ := inside.resolved _ _ loads resolves rfl
  cases written
  have missing := (outside.unresolved _ loads (nowhere _ _) rfl).1
  have number := outside.seen_default loads (nowhere _ _) rfl ["--default=5", "[1]"] "5" rfl rfl
  have text := outsideRaw.seen_default loads (nowhere _ _) rfl
    ["--default=5", "--raw-args", "[1]"] "5" rfl rfl
  have json := outsideJson.seen_default loads (nowhere _ _) rfl
    ["--default=5", "--raw-args", "--output=json", "[1]"] "5" rfl rfl
  have more := inside.insertion .verbose [] ["[0]"] rfl (List.not_mem_nil) ⟨_, rfl⟩ trivial
  exact ⟨shown.trans rfl, (kept _ "5" rfl).trans (shown.trans rfl), missing, number.trans rfl,
    text.trans rfl, json.trans rfl, (inside.verbose _ 1 more).trans (shown.trans rfl)⟩

end ValuePath.OptionEffects
