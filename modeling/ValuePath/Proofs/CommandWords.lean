import ValuePath.Program.Arguments

/-! One more option among the words of the command line. Reading takes a word at a
time, and no word looks at an option other than its own, so that a new option may
stand wherever no other one waits for its value: the words ask for the same lookup
with this option in it. -/
namespace ValuePath.CommandWords
open Command

/-- An option that is put among other words. -/
inductive Added where
  | default (value : String)
  | rawArguments
  | verbose

namespace Added

/-- The option as a word of its own. -/
def word : Added → String
  | default value => "--default=" ++ value
  | rawArguments => "--raw-args"
  | verbose => "-v"

/-- What the option adds to the words taken. -/
def mark : Added → Taken → Taken
  | default value, taken => { taken with default := some value }
  | rawArguments, taken => { taken with rawArguments := true }
  | verbose, taken => taken.raiseVerbosity

/-- What the option adds to a lookup. -/
def change : Added → Options → Options
  | default value, options => { options with default := some value }
  | rawArguments, options => { options with rawArguments := true }
  | verbose, options => { options with verbosity := options.verbosity + 1 }

/-- The words taken do without the option. Only verbosity may be raised repeatedly. -/
def Free : Added → Taken → Prop
  | default _, taken => taken.default = none
  | rawArguments, taken => taken.rawArguments = false
  | verbose, _ => True

/-- The lookup does without the option. -/
def Lacks : Added → Options → Prop
  | default _, options => options.default = none
  | rawArguments, options => options.rawArguments = false
  | verbose, _ => True

variable (added : Added)

/-- The option is taken along, up to the lookup that the words ask for. -/
def carry : Progress → Progress
  | .next taken => .next (added.mark taken)
  | .awaiting setting taken => .awaiting setting (added.mark taken)
  | .stop (.lookup options) => .stop (.lookup (added.change options))
  | .stop command => .stop command

/-- There may be a lookup, without the option so far. -/
def Open : Progress → Prop
  | .next taken | .awaiting _ taken => added.Free taken
  | .stop (.lookup options) => added.Lacks options
  | .stop _ => False

/-- Taking a word does the same with the option as without it, and where there is no
option afterwards there was none before. -/
def Steady (step : Taken → Progress) : Prop :=
  ∀ taken, added.Open (step taken) →
    added.Free taken ∧ step (added.mark taken) = added.carry (step taken)

end Added

/-! ## Steps -/

section Steps
variable {added : Added}

theorem steady_stop {command : Command} (closed : ¬added.Open (.stop command)) :
    added.Steady fun _ => .stop command :=
  fun _ goesOn => absurd goesOn closed

theorem steady_awaiting (setting : Setting) : added.Steady (.awaiting setting) :=
  fun _ free => ⟨free, rfl⟩

theorem steady_next : added.Steady .next := fun _ free => ⟨free, rfl⟩

theorem steady_add (words : List String) : added.Steady fun taken => .next (taken.add words) := by
  cases added <;> exact fun _ free => ⟨free, rfl⟩

/-- Options that are given once at most get their place among the words taken. -/
theorem steady_once {given : Taken → Bool} {place : Taken → Taken}
    (apart : ∀ taken, added.Free (place taken) → given taken = false →
      added.Free taken ∧ given (added.mark taken) = false ∧
        place (added.mark taken) = added.mark (place taken)) :
    added.Steady fun taken => if given taken then .stop .misuse else .next (place taken) := by
  intro taken goesOn
  cases absent : given taken with
  | true =>
    simp only [absent, ↓reduceIte] at goesOn
    cases goesOn
  | false =>
    simp only [absent, Bool.false_eq_true, ↓reduceIte] at goesOn ⊢
    obtain ⟨free, still, same⟩ := apart taken goesOn absent
    simp only [still, Bool.false_eq_true, ↓reduceIte, same]
    exact ⟨free, rfl⟩

theorem steady_give (setting : Setting) (value : String) :
    added.Steady fun taken => taken.give setting value := by
  cases setting with
  | file =>
    refine steady_once fun taken free absent => ?_
    cases added <;> exact ⟨free, absent, rfl⟩
  | default =>
    refine steady_once fun taken free absent => ?_
    cases added with
    | default other => cases free
    | rawArguments | verbose => exact ⟨free, absent, rfl⟩
  | output =>
    cases named : OutputFormat.ofName? value with
    | none =>
      have unnamed : (fun taken : Taken => taken.give .output value) = fun _ => .stop misuse := by
        funext taken
        cases held : taken.output <;> simp only [Taken.give, held, named]
      rw [unnamed]
      exact steady_stop id
    | some format =>
      have once : (fun taken : Taken => taken.give .output value) = fun taken =>
          if taken.output.isSome then .stop misuse
          else .next { taken with output := some format } := by
        funext taken
        cases held : taken.output <;> simp [Taken.give, held, named]
      rw [once]
      refine steady_once fun taken free absent => ?_
      cases added <;> exact ⟨free, absent, rfl⟩

theorem steady_setRaw : added.Steady Taken.setRaw := by
  refine steady_once fun taken free absent => ?_
  cases added with
  | rawArguments => cases free
  | default _ | verbose => exact ⟨free, absent, rfl⟩

theorem steady_raise {step : Taken → Progress} (steady : added.Steady step) :
    added.Steady fun taken => step taken.raiseVerbosity := by
  intro taken goesOn
  obtain ⟨free, same⟩ := steady taken.raiseVerbosity goesOn
  have raised : (added.mark taken).raiseVerbosity = added.mark taken.raiseVerbosity := by
    cases added <;> rfl
  refine ⟨?_, (congrArg step raised).trans same⟩
  cases added <;> exact free

theorem steady_takeLong (name : List Char) (value : Option (List Char)) :
    added.Steady fun taken => takeLong taken name value := by
  cases value with
  | none =>
    simp only [takeLong, Option.isSome_none, Bool.false_eq_true, ↓reduceIte]
    split
    · exact steady_awaiting .file
    · exact steady_awaiting .default
    · exact steady_awaiting .output
    · exact steady_setRaw
    · exact steady_raise steady_next
    · exact steady_stop id
    · exact steady_stop id
    · exact steady_stop id
  | some text =>
    simp only [takeLong, Option.isSome_some, ↓reduceIte]
    split
    · exact steady_give .file _
    · exact steady_give .default _
    · exact steady_give .output _
    -- Flags have no values.
    all_goals exact steady_stop id

theorem steady_value (setting : Setting) (text : List Char) : added.Steady fun taken =>
    match text with
    | [] => .awaiting setting taken
    | '=' :: value => taken.give setting (String.ofList value)
    | value => taken.give setting (String.ofList value) := by
  split
  · exact steady_awaiting setting
  · exact steady_give setting _
  · exact steady_give setting _

theorem steady_takeShort (text : List Char) : added.Steady fun taken => takeShort taken text := by
  induction text with
  | nil => exact steady_next
  | cons c rest ih =>
    simp only [takeShort]
    split
    · exact steady_value .file rest
    · exact steady_value .default rest
    · exact steady_value .output rest
    · exact steady_raise ih
    · exact steady_stop id
    · exact steady_stop id
    · exact steady_stop id

theorem steady_take (word : String) : added.Steady fun taken => take taken word := by
  simp only [take]
  split
  · exact steady_takeLong _ _
  · split
    · exact steady_takeShort _
    · exact steady_add [word]
  · exact steady_add [word]

/-! ## Runs -/

theorem finish_mark {taken : Taken} {options : Options} (lacks : added.Lacks options)
    (asked : finish taken = .lookup options) :
    added.Free taken ∧ finish (added.mark taken) = .lookup (added.change options) := by
  obtain ⟨positional, file, default, output, rawArguments, verbosity⟩ := taken
  cases positional with
  | nil => cases asked
  | cons path arguments =>
    cases asked
    cases added <;> exact ⟨lacks, rfl⟩

/-- Where the lookup lacks the option, so do the words taken before, and with the option
among those the words that remain ask for the lookup with the option. -/
theorem takeAll_carry {progress : Progress} {rest : List String} {options : Options}
    (lacks : added.Lacks options) (asked : takeAll progress rest = .lookup options) :
    added.Open progress ∧
      takeAll (added.carry progress) rest = .lookup (added.change options) := by
  -- Every word changes the progress; the lookup at the end stays the same.
  induction rest generalizing progress with
  | nil =>
    cases progress with
    | next taken => exact finish_mark lacks asked
    | awaiting setting taken => cases asked
    | stop command =>
      cases asked
      exact ⟨lacks, rfl⟩
  | cons word rest ih =>
    cases progress with
    | next taken =>
      rw [takeAll] at asked
      rw [Added.carry, takeAll]
      split at asked
      · -- Behind a double dash there are no options.
        rename_i ended
        obtain ⟨free, finished⟩ := finish_mark lacks asked
        obtain ⟨free, same⟩ := steady_add rest taken free
        rw [if_pos ended, Progress.next.inj same]
        exact ⟨free, finished⟩
      · rename_i goesOn
        rw [if_neg goesOn]
        obtain ⟨free, followed⟩ := ih asked
        obtain ⟨free, same⟩ := steady_take word taken free
        exact ⟨free, (congrArg (takeAll · rest) same).trans followed⟩
    | awaiting setting taken =>
      rw [takeAll] at asked
      rw [Added.carry, takeAll]
      split at asked
      · cases asked
      · rename_i isValue
        rw [if_neg isValue]
        obtain ⟨free, followed⟩ := ih asked
        obtain ⟨free, same⟩ := steady_give setting word taken free
        exact ⟨free, (congrArg (takeAll · rest) same).trans followed⟩
    | stop command =>
      cases asked
      exact ⟨lacks, rfl⟩

end Steps

/-! ## Inserting an option -/

/-- How reading stands behind words without a double dash. -/
def behind : Progress → List String → Progress
  | progress, [] => progress
  | .next taken, word :: rest => behind (take taken word) rest
  | .awaiting setting taken, word :: rest =>
    if looksLikeOption word.toList then .stop misuse else behind (taken.give setting word) rest
  | .stop command, _ :: _ => .stop command

theorem takeAll_append {before : List String} (undivided : "--" ∉ before) (progress : Progress)
    (after : List String) :
    takeAll progress (before ++ after) = takeAll (behind progress before) after := by
  induction before generalizing progress with
  | nil => rfl
  | cons word rest ih =>
    have later : "--" ∉ rest := fun member => undivided (List.mem_cons_of_mem _ member)
    cases progress with
    | next taken =>
      have noDash : word ≠ "--" := fun same => undivided (same ▸ List.mem_cons_self)
      rw [List.cons_append, takeAll, if_neg noDash, behind]
      exact ih later _
    | awaiting setting taken =>
      rw [List.cons_append, takeAll, behind]
      split
      · rw [takeAll]
      · exact ih later _
    | stop command => rw [List.cons_append, behind, takeAll, takeAll]

/-- The words taken at first. -/
def start : Taken := ⟨[], none, none, none, false, 0⟩

theorem take_long {word : String} {long : List Char} (spelled : word.toList = '-' :: '-' :: long)
    (taken : Taken) : take taken word =
      takeLong taken (long.takeWhile (· != '='))
        (if (long.takeWhile (· != '=')).length < long.length then
          some (long.drop ((long.takeWhile (· != '=')).length + 1)) else none) := by
  simp only [take, spelled]

/-- The word of an option that is not there yet gives the option. -/
theorem take_word {added : Added} {taken : Taken} (free : added.Free taken) :
    take taken added.word = .next (added.mark taken) := by
  cases added with
  | default value =>
    have spelled : (Added.default value).word.toList =
        '-' :: '-' :: ("default".toList ++ '=' :: value.toList) := by
      simp [Added.word, String.toList_append]
    have name : ("default".toList ++ '=' :: value.toList).takeWhile (· != '=') =
        "default".toList := by simp
    have given : takeLong taken "default".toList (some value.toList) =
        taken.give .default value := by
      rw [takeLong, String.ofList_toList]
      exact congrArg (taken.give .default) String.ofList_toList
    have absent : taken.default.isSome = false := by rw [free, Option.isSome_none]
    rw [take_long spelled, name, if_pos (by simp)]
    exact given.trans (if_neg (ne_true_of_eq_false absent))
  | rawArguments =>
    have spelled : Added.rawArguments.word.toList = '-' :: '-' :: "raw-args".toList := by decide
    rw [take_long spelled]
    exact if_neg (ne_true_of_eq_false free)
  | verbose => rfl

theorem word_ne_dashes (added : Added) : added.word ≠ "--" := by
  cases added with
  | default value =>
    intro same
    have letters := congrArg String.toList same
    simp [Added.word, String.toList_append] at letters
  | rawArguments => decide
  | verbose => decide

/-- An option may be put where no other one waits for its value, in front of a double
dash if there is one: the words ask for the same lookup with the option in it. -/
theorem ofWords_insert {added : Added} {before after : List String} {options : Options}
    {taken : Taken} (asked : ofWords (before ++ after) = .lookup options)
    (lacks : added.Lacks options) (undivided : "--" ∉ before)
    (between : behind (.next start) before = .next taken) :
    ofWords (before ++ added.word :: after) = .lookup (added.change options) := by
  have begins (words : List String) : ofWords words = takeAll (.next start) words := rfl
  rw [begins, takeAll_append undivided, between] at asked ⊢
  obtain ⟨free, followed⟩ := takeAll_carry lacks asked
  rw [takeAll, if_neg (word_ne_dashes added), take_word free]
  exact followed

end ValuePath.CommandWords
