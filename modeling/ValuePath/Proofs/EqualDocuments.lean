import ValuePath.Proofs.ValueEquality
import ValuePath.Proofs.WalkFailures

/-! Documents that are equal answer every lookup alike. A step that calls nothing
leads from equal documents to equal ones, or it fails on both for the same reason.
Neither the order of entries nor the sign of a zero is anything that fields and
positions could tell apart. -/
namespace ValuePath.EqualDocuments
open ValueEquality DistinctKeys WalkFailures
open CallSteps (typeInfo_none_iff)
open SlotRenaming (tryEvaluate_cons tryEvaluate_failed)

/-- An object stands in a value, at whatever depth. -/
inductive HoldsObject : Value → Prop where
  | object (id : ObjectId) : HoldsObject (.object id)
  | inArray (member : item ∈ items) (inside : HoldsObject item) : HoldsObject (.array items)
  | inList (member : item ∈ items) (inside : HoldsObject item) : HoldsObject (.list items)
  | inMap (member : (key, value) ∈ entries) (inside : HoldsObject value) :
      HoldsObject (.map entries)

/-- Two equal documents. No object stands in them, and their maps hold each key once. -/
structure Alike (value other : Value) : Prop where
  equal : value.equals other = true
  distinct : value.DistinctKeys
  otherDistinct : other.DistinctKeys
  bare : ¬ HoldsObject value
  otherBare : ¬ HoldsObject other

/-- Two walks that end alike: on values that are related, or with the same error. -/
inductive EndAlike (related : Value → Value → Prop) :
    Except EvalError Value → Except EvalError Value → Prop where
  | resolved (same : related value other) : EndAlike related (.ok value) (.ok other)
  | failed (error : EvalError) : EndAlike related (.error error) (.error error)

theorem EndAlike.imp {related weaker : Value → Value → Prop} {result other : Except EvalError Value}
    (weaken : ∀ value other, related value other → weaker value other)
    (alike : EndAlike related result other) : EndAlike weaker result other := by
  cases alike with
  | resolved same => exact .resolved (weaken _ _ same)
  | failed error => exact .failed error

/-! ## Equal documents from inside -/

theorem bare_array_iff {items : List Value} :
    ¬ HoldsObject (.array items) ↔ ∀ item ∈ items, ¬ HoldsObject item := by
  constructor
  · exact fun bare item member inside => bare (.inArray member inside)
  · rintro bare (_ | ⟨member, inside⟩)
    exact bare _ member inside

theorem bare_list_iff {items : List Value} :
    ¬ HoldsObject (.list items) ↔ ∀ item ∈ items, ¬ HoldsObject item := by
  constructor
  · exact fun bare item member inside => bare (.inList member inside)
  · rintro bare (_ | _ | ⟨member, inside⟩)
    exact bare _ member inside

theorem bare_map_iff {entries : List (String × Value)} :
    ¬ HoldsObject (.map entries) ↔ ∀ entry ∈ entries, ¬ HoldsObject entry.2 := by
  constructor
  · exact fun bare entry member inside => bare (.inMap member inside)
  · rintro bare (_ | _ | _ | ⟨member, inside⟩)
    exact bare _ member inside

theorem bare_leaf {value : Value} (noItems : value.asItems? = none)
    (noEntries : value.asEntries? = none) (noObject : value.asObject? = none) :
    ¬ HoldsObject value := by
  intro holds
  cases holds with
  | object id => cases noObject
  | inArray member inside => cases noItems
  | inList member inside => cases noItems
  | inMap member inside => cases noEntries

theorem alike_items {items others : List Value} (equal : List.Forall₂ Equal items others)
    (distinct : ∀ item ∈ items, item.DistinctKeys)
    (othersDistinct : ∀ other ∈ others, other.DistinctKeys)
    (bare : ∀ item ∈ items, ¬ HoldsObject item) (othersBare : ∀ other ∈ others, ¬ HoldsObject other) :
    List.Forall₂ Alike items others := by
  induction equal with
  | nil => exact .nil
  | cons first rest ih =>
    rw [List.forall_mem_cons] at distinct othersDistinct bare othersBare
    exact .cons ⟨first, distinct.1, othersDistinct.1, bare.1, othersBare.1⟩
      (ih distinct.2 othersDistinct.2 bare.2 othersBare.2)

theorem alike_arrays {items others : List Value} (alike : Alike (.array items) (.array others)) :
    List.Forall₂ Alike items others :=
  alike_items (equal_arrays_iff.mp alike.equal) (distinctKeys_items.mp alike.distinct)
    (distinctKeys_items.mp alike.otherDistinct) (bare_array_iff.mp alike.bare)
    (bare_array_iff.mp alike.otherBare)

theorem alike_lists {items others : List Value} (alike : Alike (.list items) (.list others)) :
    List.Forall₂ Alike items others :=
  alike_items (equal_lists_iff.mp alike.equal) (distinctKeys_items.mp alike.distinct)
    (distinctKeys_items.mp alike.otherDistinct) (bare_list_iff.mp alike.bare)
    (bare_list_iff.mp alike.otherBare)

/-- Under every key, equal maps hold equal documents or nothing. -/
theorem alike_maps {entries others : List (String × Value)}
    (alike : Alike (.map entries) (.map others)) (key : String) :
    Option.Rel Alike (Entries.find? key entries) (Entries.find? key others) := by
  have related := (equal_maps_iff alike.distinct.1 alike.otherDistinct.1).mp alike.equal key
  generalize here : Entries.find? key entries = found at related
  generalize there : Entries.find? key others = foundToo at related
  cases related with
  | none => exact .none
  | some same =>
    exact .some ⟨same, distinctKeys_found alike.distinct here,
      distinctKeys_found alike.otherDistinct there,
      bare_map_iff.mp alike.bare _ (mem_of_find here),
      bare_map_iff.mp alike.otherBare _ (mem_of_find there)⟩

/-- Values that are equal are of one type, with one member table. -/
theorem sameType_of_equal {value other : Value} (objects : Objects) (equal : Equal value other) :
    value.typeName objects = other.typeName objects ∧
      value.typeInfo? objects = other.typeInfo? objects := by
  have leaf (noItems : value.asItems? = none) (noEntries : value.asEntries? = none) :
      value.typeName objects = other.typeName objects ∧
        value.typeInfo? objects = other.typeInfo? objects := by
    rcases (equal_leaf_iff noItems noEntries).mp equal with
      ⟨x, y, rfl, rfl, -⟩ | ⟨x, y, rfl, rfl, -⟩ | ⟨rfl, -, -⟩
    · exact ⟨rfl, rfl⟩
    · exact ⟨rfl, rfl⟩
    · exact ⟨rfl, rfl⟩
  cases value with
  | array items =>
    cases other with
    | array others => exact ⟨rfl, rfl⟩
    | _ => cases equal
  | list items =>
    cases other with
    | list others => exact ⟨rfl, rfl⟩
    | _ => cases equal
  | map entries =>
    cases other with
    | map others => exact ⟨rfl, rfl⟩
    | _ => cases equal
  | _ => exact leaf rfl rfl

/-- The items of equal documents are equal, one by one, if they have items at all. -/
theorem alike_elements {value other : Value} (objects : Objects) (alike : Alike value other) :
    Option.Rel (List.Forall₂ Alike) (elements? objects value) (elements? objects other) := by
  have equal := alike.equal
  cases value with
  | array items =>
    cases other with
    | array others => exact .some (alike_arrays alike)
    | _ => cases equal
  | list items =>
    cases other with
    | list others => exact .some (alike_lists alike)
    | _ => cases equal
  | object id => exact absurd (.object id) alike.bare
  | _ =>
    cases other with
    | object id => exact absurd (.object id) alike.otherBare
    | array others => cases equal
    | list others => cases equal
    | _ => exact .none

/-! ## One step -/

section Steps
variable (evaluator : Evaluator) {value other : Value}

/-- Of values that are neither maps nor objects, no field can be read. -/
theorem readField_plain (noMap : value.asEntries? = none) (noObject : ¬ HoldsObject value)
    (name : String) : evaluator.readField value name =
      match value.typeInfo? evaluator.objects with
      | none => .error (.nullReceiver (Segment.field name).display)
      | some info => .error (.fieldNotFound info.name name) := by
  cases value with
  | map entries => cases noMap
  | object id => exact absurd (.object id) noObject
  | _ => rfl

theorem field_alike (alike : Alike value other) (name : String) :
    EndAlike Alike (evaluator.readField value name) (evaluator.readField other name) := by
  have equal := alike.equal
  by_cases noMap : value.asEntries? = none
  · have noMapToo : other.asEntries? = none := by
      cases other with
      | map others =>
        cases value with
        | map entries => cases noMap
        | _ => cases equal
      | _ => rfl
    have typed := (sameType_of_equal evaluator.objects equal).2
    rw [readField_plain evaluator noMap alike.bare, readField_plain evaluator noMapToo alike.otherBare,
      typed]
    cases other.typeInfo? evaluator.objects with
    | none => exact .failed _
    | some info => exact .failed _
  · cases value with
    | map entries =>
      cases other with
      | map others =>
        have related := alike_maps alike name
        rw [readField_map, readField_map]
        generalize Entries.find? name entries = found at related
        generalize Entries.find? name others = foundToo at related
        cases related with
        | none => exact .failed _
        | some same => exact .resolved same
      | _ => cases equal
    | _ => exact absurd rfl noMap

theorem element_alike {items others : List Value} (each : List.Forall₂ Alike items others)
    (index : Nat) (error : EvalError) :
    EndAlike Alike
      (match items[index]? with
        | some value => .ok value
        | none => .error error)
      (match others[index]? with
        | some value => .ok value
        | none => .error error) := by
  induction each generalizing index with
  | nil => exact .failed error
  | cons first rest ih =>
    cases index with
    | zero => exact .resolved first
    | succ index => simpa only [List.getElem?_cons_succ] using ih index

theorem index_alike (alike : Alike value other) (position : Option Int64) :
    EndAlike Alike (evaluator.readIndex value position) (evaluator.readIndex other position) := by
  cases position with
  | none => exact .failed _
  | some position =>
    by_cases negative : position < 0
    · rw [Evaluator.readIndex, if_pos negative, Evaluator.readIndex, if_pos negative]
      exact .failed _
    · have usable : 0 ≤ position := Int64.not_lt.mp negative
      obtain ⟨named, typed⟩ := sameType_of_equal evaluator.objects alike.equal
      have null : value.isNull = other.isNull := by
        rw [Bool.eq_iff_iff, isNull_iff, isNull_iff, ← typeInfo_none_iff, ← typeInfo_none_iff, typed]
      have related := alike_elements evaluator.objects alike
      rw [readIndex_usable usable, readIndex_usable usable, named, null]
      generalize elements? evaluator.objects value = items at related
      generalize elements? evaluator.objects other = others at related
      cases related with
      | none =>
        dsimp only
        split
        · exact .failed _
        · exact .failed _
      | some each => exact element_alike each _ _

/-- A step that calls nothing leads from equal documents to equal ones, or fails on
both with the same error. -/
theorem step_alike (alike : Alike value other) {segment : Segment}
    (plain : ∀ name slots, segment ≠ .method name slots) :
    EndAlike Alike (evaluator.step value segment) (evaluator.step other segment) := by
  cases segment with
  | field name => exact field_alike evaluator alike name
  | method name slots => exact absurd rfl (plain name slots)
  | index position => exact index_alike evaluator alike position

end Steps

/-! ## Walks -/

theorem walk_alike (evaluator : Evaluator) (segments : List Segment) {value other : Value}
    (alike : Alike value other)
    (plain : ∀ segment ∈ segments, ∀ name slots, segment ≠ .method name slots) :
    EndAlike Alike (evaluator.tryEvaluate value ⟨segments⟩)
      (evaluator.tryEvaluate other ⟨segments⟩) := by
  induction segments generalizing value other with
  | nil => exact .resolved alike
  | cons segment rest ih =>
    rw [List.forall_mem_cons] at plain
    have stepped := step_alike evaluator alike plain.1
    generalize here : evaluator.step value segment = result at stepped
    generalize there : evaluator.step other segment = resultToo at stepped
    cases stepped with
    | resolved next =>
      rw [tryEvaluate_cons here, tryEvaluate_cons there]
      exact ih next plain.2
    | failed error =>
      rw [tryEvaluate_failed here, tryEvaluate_failed there]
      exact .failed error

/-- Equal documents answer alike. Along every path of fields and positions, the walks
from two equal values without objects end on equal values, or they fail with the same
error. -/
theorem equal_documents_answer_alike (evaluator : Evaluator) (value other : Value)
    (distinct : value.DistinctKeys) (otherDistinct : other.DistinctKeys)
    (bare : ¬ HoldsObject value) (otherBare : ¬ HoldsObject other)
    (equal : value.equals other = true) (path : Path)
    (plain : ∀ segment ∈ path.segments, ∀ name slots, segment ≠ .method name slots) :
    EndAlike (fun found foundToo => found.equals foundToo = true)
      (evaluator.tryEvaluate value path) (evaluator.tryEvaluate other path) :=
  (walk_alike evaluator path.segments ⟨equal, distinct, otherDistinct, bare, otherBare⟩ plain).imp
    fun _ _ alike => alike.equal

/-- Two readings of one gauge, which differ in the order of their entries and in the
sign of a zero. A path to the first number finds it in both of them; a path to a third
one fails alike, and so does a path to a field of the unit. -/
theorem readings_answer_alike :
    let evaluator : Evaluator := ⟨Objects.empty, [], 3⟩
    let reading : Value :=
      .map [("at", .list [.double ⟨0⟩, .int 4]), ("unit", .map [("name", .string "mm")])]
    let other : Value :=
      .map [("unit", .map [("name", .string "mm")]),
        ("at", .list [.double ⟨0x8000000000000000⟩, .int 4])]
    let first : Path := ⟨[.field "at", .index (some 0)]⟩
    let third : Path := ⟨[.field "at", .index (some 2)]⟩
    let below : Path := ⟨[.field "unit", .field "name", .field "plural"]⟩
    reading.DistinctKeys ∧ other.DistinctKeys ∧ ¬ HoldsObject reading ∧ ¬ HoldsObject other ∧
      reading.equals other = true ∧
      (∀ path ∈ [first, third, below], (∀ segment ∈ path.segments, ∀ name slots,
        segment ≠ .method name slots) ∧
        EndAlike (fun found foundToo => found.equals foundToo = true)
          (evaluator.tryEvaluate reading path) (evaluator.tryEvaluate other path)) ∧
      evaluator.tryEvaluate reading first = .ok (.double ⟨0⟩) ∧
      evaluator.tryEvaluate other first = .ok (.double ⟨0x8000000000000000⟩) ∧
      evaluator.tryEvaluate reading third = .error (.indexOutOfRange 2) ∧
      evaluator.tryEvaluate reading below = .error (.fieldNotFound "String" "plural") := by
  intro evaluator reading other first third below
  have distinct : reading.DistinctKeys := by
    simp [reading, Value.DistinctKeys, Value.DistinctKeysItems, Value.DistinctKeysEntries,
      Entries.Distinct, Entries.keys]
  have otherDistinct : other.DistinctKeys := by
    simp [other, Value.DistinctKeys, Value.DistinctKeysItems, Value.DistinctKeysEntries,
      Entries.Distinct, Entries.keys]
  have bare : ¬ HoldsObject reading := by
    simp only [reading, bare_map_iff, List.forall_mem_cons, bare_list_iff, List.not_mem_nil,
      false_implies, implies_true, and_true]
    exact ⟨⟨bare_leaf rfl rfl rfl, bare_leaf rfl rfl rfl⟩, bare_leaf rfl rfl rfl⟩
  have otherBare : ¬ HoldsObject other := by
    simp only [other, bare_map_iff, List.forall_mem_cons, bare_list_iff, List.not_mem_nil,
      false_implies, implies_true, and_true]
    exact ⟨bare_leaf rfl rfl rfl, bare_leaf rfl rfl rfl, bare_leaf rfl rfl rfl⟩
  have equal : reading.equals other = true := by decide
  refine ⟨distinct, otherDistinct, bare, otherBare, equal, ?_, by rfl, by rfl, by rfl, by rfl⟩
  intro path member
  have plain : ∀ segment ∈ path.segments, ∀ name slots, segment ≠ .method name slots := by
    simp only [List.mem_cons, List.not_mem_nil, or_false] at member
    rcases member with rfl | rfl | rfl <;> simp [first, third, below]
  exact ⟨plain, equal_documents_answer_alike evaluator reading other distinct otherDistinct bare
    otherBare equal path plain⟩

end ValuePath.EqualDocuments
