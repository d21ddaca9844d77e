import ValuePath.Program.Config
import ValuePath.Proofs.TomlLines

/-! Saved settings are in force when they are loaded again. Settings that cannot be
written, and a place that cannot be written to, leave everything as it was, so that
loading gives what it gave before. -/
namespace ValuePath.SavedSettings
open Toml TomlLines

/-! ## The lines of the file -/

/-- The setting of a number, as a line. -/
def naturalLine (key : String) (named : key.toList ≠ [])
    (bare : ∀ c ∈ key.toList, isBareKeyChar c = true) (n : Nat) (bound : n < 2 ^ 63) : Line where
  key := key
  text := Nat.toDigits 10 n
  value := .integer (Int64.ofInt n)
  named := named
  bare := bare
  spelt := spelt_natural bound

/-- Every exit code can be written. -/
theorem code_fits (config : Config) : config.nullExitCode.toNat < 2 ^ 63 := by
  have byte := config.nullExitCode.toNat_lt
  omega

theorem plain_name (format : OutputFormat) : ∀ c ∈ format.name.toList, Plain c := by
  cases format with
  | yaml => simp [OutputFormat.name, Plain, isVisible]
  | json => simp [OutputFormat.name, Plain, isVisible]

/-- All settings in the order of the file. -/
def settings (config : Config) (bound : config.ambiguityThreshold.toNat < 2 ^ 63) : List Line :=
  [naturalLine "ambiguity_threshold" (List.cons_ne_nil _ _) (List.all_eq_true.mp rfl)
     config.ambiguityThreshold.toNat bound,
   { key := "output_format"
     text := '"' :: (config.outputFormat.name.toList ++ ['"'])
     value := .string (String.ofList config.outputFormat.name.toList)
     named := List.cons_ne_nil _ _
     bare := List.all_eq_true.mp rfl
     spelt := spelt_string (plain_name config.outputFormat) },
   { key := "typed_arguments"
     text := (if config.typedArguments then "true" else "false").toList
     value := .boolean config.typedArguments
     named := List.cons_ne_nil _ _
     bare := List.all_eq_true.mp rfl
     spelt := spelt_boolean config.typedArguments },
   naturalLine "null_exit_code" (List.cons_ne_nil _ _) (List.all_eq_true.mp rfl)
     config.nullExitCode.toNat (code_fits config)]

variable {config : Config}

/-- The text for settings consists of their lines. -/
theorem write_lines (bound : config.ambiguityThreshold.toNat < 2 ^ 63) :
    ∃ text, config.write? = some text ∧
      text.toList = (settings config bound).flatMap Line.written := by
  refine ⟨_, if_pos bound, ?_⟩
  simp [settings, naturalLine, Line.written, Nat.toString_eq_repr, Nat.toList_repr]

/-! ## Reading the entries -/

theorem natural_found {name : String} {usual bound n : Nat} {table : Table}
    (found : Entries.find? name table = some (.integer (Int64.ofInt n))) (fits : n < 2 ^ 63)
    (within : n ≤ bound) : Config.natural? name usual bound table = some n := by
  have value : (Int64.ofInt (n : Int)).toInt = n := Int64.toInt_ofInt_of_le (by omega) (by omega)
  have range : (0 : Int) ≤ n ∧ (n : Int) ≤ bound := ⟨by omega, by omega⟩
  simp only [Config.natural?, found, value, range, and_self, ↓reduceIte, Int.toNat_natCast]

theorem ofName_name (format : OutputFormat) : OutputFormat.ofName? format.name = some format := by
  cases format <;> rfl

/-- The entries of the lines are the settings again. -/
theorem ofTable_settings (bound : config.ambiguityThreshold.toNat < 2 ^ 63) :
    Config.ofTable? ((settings config bound).map Line.entry) = some config := by
  have threshold : Config.natural? "ambiguity_threshold" Config.default.ambiguityThreshold.toNat
      (Nat.pow 2 63 - 1) ((settings config bound).map Line.entry) =
        some config.ambiguityThreshold.toNat :=
    natural_found rfl bound (Nat.le_pred_of_lt bound)
  have format : Config.format? "output_format" Config.default.outputFormat
      ((settings config bound).map Line.entry) = some config.outputFormat :=
    (congrArg OutputFormat.ofName? String.ofList_toList).trans (ofName_name config.outputFormat)
  have typed : Config.boolean? "typed_arguments" Config.default.typedArguments
      ((settings config bound).map Line.entry) = some config.typedArguments := rfl
  have code : Config.natural? "null_exit_code" Config.default.nullExitCode.toNat 255
      ((settings config bound).map Line.entry) = some config.nullExitCode.toNat :=
    natural_found rfl (code_fits config) (Nat.le_pred_of_lt config.nullExitCode.toNat_lt)
  simp only [Config.ofTable?, threshold, format, typed, code, Option.bind_eq_bind,
    Option.bind_some, UInt64.ofNat_toNat, UInt8.ofNat_toNat, Option.pure_def]

/-- The keys of the lines are the names of the settings. -/
theorem distinct_settings (bound : config.ambiguityThreshold.toNat < 2 ^ 63) :
    ((settings config bound).map Line.key).Nodup := by
  have keys : (settings config bound).map Line.key =
      ["ambiguity_threshold", "output_format", "typed_arguments", "null_exit_code"] := rfl
  rw [keys]
  decide

theorem bound_of_write {text : String} (written : config.write? = some text) :
    config.ambiguityThreshold.toNat < 2 ^ 63 :=
  (Option.ite_none_right_eq_some.mp written).1

/-- The text for settings is read as these settings. -/
theorem parse_write {text : String} (written : config.write? = some text) :
    Config.parse? text.toList = some config := by
  have bound := bound_of_write written
  obtain ⟨lines, same, spelled⟩ := write_lines bound
  obtain rfl : lines = text := Option.some.inj (same.symm.trans written)
  rw [Config.parse?, spelled, parse_lines (distinct_settings bound)]
  exact ofTable_settings bound

theorem natural_within {name : String} {usual bound n : Nat} {table : Table}
    (within : usual ≤ bound) (read : Config.natural? name usual bound table = some n) :
    n ≤ bound := by
  unfold Config.natural? at read
  split at read
  · cases read
    exact within
  · obtain ⟨range, same⟩ := Option.ite_none_right_eq_some.mp read
    rw [← Option.some.inj same]
    omega
  · cases read

/-- Every threshold in the file fits. -/
theorem bound_of_parse {text : List Char} (parsed : Config.parse? text = some config) :
    config.ambiguityThreshold.toNat < 2 ^ 63 := by
  obtain ⟨table, -, held⟩ := Option.bind_eq_some_iff.mp parsed
  simp only [Config.ofTable?, Option.bind_eq_bind, Option.bind_eq_some_iff, Option.pure_def,
    Option.some.injEq] at held
  obtain ⟨threshold, read, -, -, -, -, -, -, rfl⟩ := held
  have within := natural_within (by decide) read
  have fits : threshold < 2 ^ 63 := by
    have : Nat.pow 2 63 = 2 ^ 63 := rfl
    omega
  rw [UInt64.toNat_ofNat_of_lt' (Nat.lt_trans fits (by decide))]
  exact fits

/-! ## Saving and loading -/

/-- The file can be written here, along with its directory. -/
def Writable (place : Config.Place) : Prop := ∃ earlier, place = .file earlier

/-- What was saved is in force afterwards. -/
theorem load_text {text : String} (written : config.write? = some text) :
    Config.load (.file (some (Text.encode text))) = (config, false) := by
  simp only [Config.load, Text.decode?_encode, parse_write written]

/-- Settings that fit are in force where they are in the file. -/
theorem load_exists (bound : config.ambiguityThreshold.toNat < 2 ^ 63) :
    ∃ place, Config.load place = (config, false) := by
  obtain ⟨text, written, -⟩ := write_lines bound
  exact ⟨_, load_text written⟩

/-- Settings in force can be saved, for none of them is beyond what can be written. -/
theorem bound_of_load (place : Config.Place) :
    (Config.load place).1.ambiguityThreshold.toNat < 2 ^ 63 := by
  have usual : Config.default.ambiguityThreshold.toNat < 2 ^ 63 := by decide
  unfold Config.load
  split
  · split
    · exact usual
    · split
      · rename_i parsed
        exact bound_of_parse parsed
      · exact usual
  · exact usual

/-- Saving either puts the text for the settings in the file or changes nothing. -/
theorem save_cases (config : Config) (place : Config.Place) :
    (∃ text, config.write? = some text ∧ Writable place ∧
      config.save place = (.file (some (Text.encode text)), none)) ∨
    (∃ error, (config.write? = none ∨ ¬Writable place) ∧
      config.save place = (place, some error)) := by
  cases place with
  | obstructed => exact .inr ⟨.noDirectory, .inr nofun, rfl⟩
  | directory =>
    cases written : config.write? with
    | none => exact .inr ⟨.outOfRange, .inl rfl, by simp only [Config.save, written]⟩
    | some text => exact .inr ⟨.noFile, .inr nofun, by simp only [Config.save, written]⟩
  | file earlier =>
    cases written : config.write? with
    | none => exact .inr ⟨.outOfRange, .inl rfl, by simp only [Config.save, written]⟩
    | some text =>
      exact .inl ⟨text, rfl, ⟨earlier, rfl⟩, by simp only [Config.save, written]⟩

/-- Settings that fit are saved wherever there can be a file, and loading gives them
back without a complaint. Otherwise nothing is saved: there is the same as before, and
loading gives the same as before. A threshold beyond 63 bits never fits. -/
theorem save_faithful_or_harmless (config : Config) (place : Config.Place) :
    (config.ambiguityThreshold.toNat ≤ 2 ^ 63 - 1 → Writable place →
      (config.save place).2 = none ∧ Config.load (config.save place).1 = (config, false)) ∧
    (2 ^ 63 - 1 < config.ambiguityThreshold.toNat → (config.save place).2 ≠ none) ∧
    ((config.save place).2 ≠ none →
      (config.save place).1 = place ∧
      Config.load (config.save place).1 = Config.load place) := by
  rcases save_cases config place with ⟨text, written, writable, saved⟩ | ⟨error, reason, saved⟩
  · rw [saved]
    have bound := bound_of_write written
    refine ⟨fun _ _ => ⟨rfl, load_text written⟩, fun beyond => ?_, fun failed => ?_⟩
    · omega
    · exact absurd rfl failed
  · rw [saved]
    refine ⟨fun fits writable => ?_, fun _ => nofun, fun _ => ⟨rfl, rfl⟩⟩
    have bound : config.ambiguityThreshold.toNat < 2 ^ 63 := by omega
    rcases reason with unwritten | elsewhere
    · obtain ⟨text, written, -⟩ := write_lines bound
      rw [unwritten] at written
      cases written
    · exact absurd writable elsewhere

/-- The greatest threshold that fits is saved where there is no file yet; with the
next one there is still none. -/
theorem greatest_threshold_saved :
    let greatest := { Config.default with ambiguityThreshold := 9223372036854775807 }
    let beyond := { Config.default with ambiguityThreshold := 9223372036854775808 }
    (greatest.save (.file none)).2 = none ∧
      Config.load (greatest.save (.file none)).1 = (greatest, false) ∧
      (beyond.save (.file none)).2 ≠ none ∧ (beyond.save (.file none)).1 = .file none ∧
      Config.load (beyond.save (.file none)).1 = (Config.default, false) := by
  intro greatest beyond
  obtain ⟨faithful, -, -⟩ := save_faithful_or_harmless greatest (.file none)
  obtain ⟨-, refused, harmless⟩ := save_faithful_or_harmless beyond (.file none)
  have fits : greatest.ambiguityThreshold.toNat = 2 ^ 63 - 1 := rfl
  have exceeds : beyond.ambiguityThreshold.toNat = 2 ^ 63 := rfl
  have fails := refused (by omega)
  obtain ⟨saved, loaded⟩ := faithful (Nat.le_of_eq fits) ⟨none, rfl⟩
  exact ⟨saved, loaded, fails, harmless fails⟩

end ValuePath.SavedSettings
