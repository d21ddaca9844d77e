import ValuePath.Proofs.LookupComposition
import ValuePath.Proofs.SequenceViews

/-! The views of a map. A key is asked for as a field of a path, which looks the entry up
in the map itself, or with methods, which are found in the member table; the methods also
list keys and values. All of these agree on which keys there are and on what stands under
them, however often a key was put into the map. -/
namespace ValuePath.MapViews
open DistinctKeys MemberCalls LookupComposition
open OverloadDispatch (Supplied handle)
open SequenceViews (object_accepts step_ok_iff)

/-- The ways to ask a map for a string agree. -/
structure KeyViewsAgree (evaluator : Evaluator) (entries : List (String × Value)) (key : String) :
    Prop where
  /-- A field is there exactly if the map contains the key, and it holds what the map gives
  for the key, null included. -/
  reached : ∀ value, evaluator.step (.map entries) (.field key) = .ok value ↔
    call evaluator.objects (.map entries) "containsKey" [.string key] = .ok (.boolean true) ∧
    call evaluator.objects (.map entries) "get" [.string key] = .ok value
  /-- A field that is not there is reported as such, where the map gives null. -/
  missed : ∀ error, evaluator.step (.map entries) (.field key) = .error error →
    error = .fieldNotFound "Map" key ∧
    call evaluator.objects (.map entries) "containsKey" [.string key] = .ok (.boolean false) ∧
    call evaluator.objects (.map entries) "get" [.string key] = .ok .null
  /-- A lookup finds the same along the field and with the call, whatever way the field is
  written and whatever arguments stand behind the key. -/
  found : ∀ (field : PathForm) (args : List Value), field.path = ⟨[.field key]⟩ →
    args[0]? = some (.string key) →
    get evaluator.objects (.map entries) field args =
      get evaluator.objects (.map entries) (.text "get(\x7b0\x7d)") args

/-- What a map lists agrees with what it counts and with what it gives for its keys. -/
structure ListingsAgree (evaluator : Evaluator) (entries : List (String × Value)) (size : Int32)
    (keys values : List Value) : Prop where
  counted : call evaluator.objects (.map entries) "size" [] = .ok (.int size)
  keysGiven : call evaluator.objects (.map entries) "keySet" [] = .ok (.list keys)
  valuesGiven : call evaluator.objects (.map entries) "values" [] = .ok (.list values)
  isEmpty : ∃ empty : Bool,
    call evaluator.objects (.map entries) "isEmpty" [] = .ok (.boolean empty) ∧
    (empty = true ↔ size = 0)
  keyCount : (keys.length : Int) = size.toInt
  valueCount : (values.length : Int) = size.toInt
  distinct : keys.Nodup
  contained : ∀ key, key ∈ keys ↔
    call evaluator.objects (.map entries) "containsKey" [key] = .ok (.boolean true)
  /-- The value at a position is what the map gives for the key at that position. -/
  aligned : ∀ index : Int64, 0 ≤ index.toInt → index.toInt < size.toInt → ∃ key value,
    evaluator.step (.list keys) (.index (some index)) = .ok key ∧
    evaluator.step (.list values) (.index (some index)) = .ok value ∧
    call evaluator.objects (.map entries) "get" [key] = .ok value

/-! ## Methods of a map -/

section Methods
variable {objects : Objects} {entries : List (String × Value)} {key result : Value}

theorem get_answers : call objects (.map entries) "get" [key] =
    .ok ((MapMembers.underKey? entries key).getD .null) :=
  (map_call_ok_iff rfl (object_accepts objects key) rfl (by simp)).mpr rfl

theorem containsKey_answers : call objects (.map entries) "containsKey" [key] =
    .ok (.boolean (MapMembers.underKey? entries key).isSome) :=
  (map_call_ok_iff rfl (object_accepts objects key) rfl (by simp)).mpr rfl

theorem size_ok_iff : call objects (.map entries) "size" [] = .ok result ↔
    intOfCount entries.length = .ok result :=
  map_call_ok_iff rfl rfl rfl (by simp)

theorem isEmpty_answers :
    call objects (.map entries) "isEmpty" [] = .ok (.boolean entries.isEmpty) :=
  (map_call_ok_iff rfl rfl rfl (by simp)).mpr rfl

theorem keySet_answers : call objects (.map entries) "keySet" [] =
    .ok (.list ((Entries.keys entries).map .string)) :=
  (map_call_ok_iff rfl rfl rfl (by simp)).mpr rfl

theorem values_answers :
    call objects (.map entries) "values" [] = .ok (.list (Entries.values entries)) :=
  (map_call_ok_iff rfl rfl rfl (by simp)).mpr rfl

end Methods

/-! ## One key -/

section Keys
variable {evaluator : Evaluator} {entries : List (String × Value)} {key : String}

/-- What a map gives for a string is what stands under it. -/
theorem underKey_string : MapMembers.underKey? entries (.string key) = Entries.find? key entries :=
  rfl

theorem underKey_other {other : Value} (unnamed : ∀ text, other ≠ .string text) :
    MapMembers.underKey? entries other = none := by
  cases other with
  | string text => exact absurd rfl (unnamed text)
  | _ => rfl

theorem path_of_call : (PathForm.text "get(\x7b0\x7d)").path = ⟨[.method "get" [0]]⟩ := by cbv

/-- A lookup along one segment finds what the step finds. -/
theorem get_of_segment {objects : Objects} {root : Value} {form : PathForm} {args : List Value}
    {segment : Segment} (path : form.path = ⟨[segment]⟩) : get objects root form args =
      found ((Evaluator.mk objects args Evaluator.defaultThreshold).step root segment) := by
  rw [get, evaluate_found, path, Evaluator.tryEvaluate, List.foldlM_cons]
  cases Evaluator.step _ root segment <;> rfl

/-- The call gives what stands under the key, wherever in the arguments there is more. -/
theorem step_get (given : evaluator.args[0]? = some (.string key)) :
    evaluator.step (.map entries) (.method "get" [0]) =
      .ok ((Entries.find? key entries).getD .null) := by
  have supplied : Supplied evaluator.args [0] [.string key] := .cons given .nil
  have typed : (Value.map entries).typeInfo? evaluator.objects =
      some (TypeInfo.build "Map" Value.asEntries? MapMembers.registrations) := rfl
  have only : MapMembers.table.methods "get" [(0 : UInt64)].length = [handle "Map" Value.asEntries? "get" [.object]
      fun entries args => do
        return (MapMembers.underKey? entries (← Arguments.get args 0)).getD .null] := rfl
  exact (supplied_call_ok_iff typed rfl only (object_accepts evaluator.objects _) supplied).mpr rfl

theorem key_views_agree (evaluator : Evaluator) (entries : List (String × Value)) (key : String) :
    KeyViewsAgree evaluator entries key := by
  cases held : Entries.find? key entries with
  | some value =>
    have field (evaluator : Evaluator) :
        evaluator.step (.map entries) (.field key) = .ok value := by
      rw [Evaluator.step, WalkFailures.readField_map, held]
    refine ⟨fun other => ?_, fun error failed => ?_, fun form args path given => ?_⟩
    · rw [field, containsKey_answers, get_answers, underKey_string, held]
      exact ⟨fun same => ⟨rfl, same⟩, fun both => both.2⟩
    · cases (field evaluator).symm.trans failed
    · rw [get_of_segment path, field, get_of_segment path_of_call, step_get given, held]
      rfl
  | none =>
    have field (evaluator : Evaluator) :
        evaluator.step (.map entries) (.field key) = .error (.fieldNotFound "Map" key) := by
      rw [Evaluator.step, WalkFailures.readField_map, held]
    refine ⟨fun other => ?_, fun error failed => ?_, fun form args path given => ?_⟩
    · rw [field, containsKey_answers, underKey_string, held]
      constructor
      · intro given
        cases given
      · intro both
        cases both.1
    · cases (field evaluator).symm.trans failed
      rw [containsKey_answers, get_answers, underKey_string, held]
      exact ⟨rfl, rfl, rfl⟩
    · rw [get_of_segment path, field, get_of_segment path_of_call, step_get given, held]
      rfl

end Keys

/-! ## Keys and values -/

section Listings
variable (evaluator : Evaluator) {entries : List (String × Value)}

theorem contained_iff (key : Value) : key ∈ (Entries.keys entries).map Value.string ↔
    call evaluator.objects (.map entries) "containsKey" [key] = .ok (.boolean true) := by
  rw [containsKey_answers, List.mem_map]
  constructor
  · rintro ⟨name, member, rfl⟩
    rw [underKey_string, find_isSome_iff.mpr member]
  · intro contained
    cases key with
    | string name =>
      rw [underKey_string] at contained
      refine ⟨name, find_isSome_iff.mp ?_, rfl⟩
      simpa using contained
    | _ => cases contained

theorem listings_agree (distinct : Entries.Distinct entries)
    (fits : (entries.length : Int) ≤ greatestInt) : ∃ size,
      ListingsAgree evaluator entries size ((Entries.keys entries).map .string)
        (Entries.values entries) := by
  obtain ⟨size, named, counted⟩ := intOfCount_ok fits
  refine ⟨size, size_ok_iff.mpr named, keySet_answers, values_answers,
    ⟨_, isEmpty_answers, ?_⟩, ?_, ?_, ?_, contained_iff evaluator, fun index usable inside => ?_⟩
  · rw [List.isEmpty_iff, ← List.length_eq_zero_iff, ← Int32.toInt_inj, counted,
      Int32.toInt_zero, Int.natCast_eq_zero]
  · simp [counted, Entries.keys]
  · simp [counted, Entries.values]
  · exact List.Nodup.map (fun _ _ same => Value.string.inj same) distinct
  · have within : index.toInt.toNat < entries.length := by omega
    obtain ⟨⟨key, value⟩, stands⟩ : ∃ entry, entries[index.toInt.toNat]? = some entry :=
      ⟨_, List.getElem?_eq_getElem within⟩
    have held : Entries.find? key entries = some value :=
      find_of_mem distinct (List.mem_of_getElem? stands)
    refine ⟨.string key, value, (step_ok_iff rfl).mpr ⟨usable, ?_⟩,
      (step_ok_iff rfl).mpr ⟨usable, ?_⟩, ?_⟩
    · rw [Entries.keys, List.getElem?_map, List.getElem?_map, stands]
      rfl
    · rw [Entries.values, List.getElem?_map, stands]
      rfl
    · rw [get_answers, underKey_string, held]
      rfl

end Listings

/-- All views of a map agree, whatever was put into it in whatever order. A field of a path
is there exactly if the map contains the key, and then both give the same value; a key that
is no string is absent; and what the map lists, counts and gives for its keys fits together.
(Every association without a repeated key results from putting its own entries in order.) -/
theorem map_views_agree (evaluator : Evaluator) (history : List (String × Value))
    (fits : ((Entries.ofPairs history).length : Int) ≤ greatestInt) :
    (∀ key, KeyViewsAgree evaluator (Entries.ofPairs history) key) ∧
    (∀ other : Value, (∀ text, other ≠ .string text) →
      call evaluator.objects (.map (Entries.ofPairs history)) "containsKey" [other] =
        .ok (.boolean false) ∧
      call evaluator.objects (.map (Entries.ofPairs history)) "get" [other] = .ok .null) ∧
    ∃ size keys values, ListingsAgree evaluator (Entries.ofPairs history) size keys values := by
  refine ⟨key_views_agree evaluator _, fun other unnamed => ?_, ?_⟩
  · rw [containsKey_answers, get_answers, underKey_other unnamed]
    exact ⟨rfl, rfl⟩
  · obtain ⟨size, agree⟩ := listings_agree evaluator (distinct_ofPairs history) fits
    exact ⟨size, _, _, agree⟩

/-- A name that is put into a map a second time, as null, and an age that is null from the
start. Both are there, and the map lists each of them once. -/
theorem views_of_blank_form_agree :
    let history : List (String × Value) :=
      [("name", .string "ada"), ("age", .null), ("name", .null)]
    let form := Entries.ofPairs history
    let evaluator : Evaluator := ⟨Objects.empty, [], 3⟩
    (form.length : Int) ≤ greatestInt ∧
      KeyViewsAgree evaluator form "name" ∧
      evaluator.step (.map form) (.field "name") = .ok .null ∧
      (∀ text, Value.int 3 ≠ .string text) ∧
      call evaluator.objects (.map form) "containsKey" [.int 3] = .ok (.boolean false) ∧
      ListingsAgree evaluator form 2 [.string "name", .string "age"] [.null, .null] := by
  intro history form evaluator
  have fits : (form.length : Int) ≤ greatestInt := by decide
  have unnamed : ∀ text, Value.int 3 ≠ .string text := nofun
  obtain ⟨named, other, size, keys, values, agree⟩ := map_views_agree evaluator history fits
  cases agree.counted.symm.trans (by rfl : _ = Except.ok (Value.int 2))
  cases agree.keysGiven.symm.trans (by rfl :
    _ = Except.ok (Value.list [.string "name", .string "age"]))
  cases agree.valuesGiven.symm.trans (by rfl : _ = Except.ok (Value.list [.null, .null]))
  exact ⟨fits, named "name", rfl, unnamed, (other _ unnamed).1, agree⟩

end ValuePath.MapViews
