import Mathlib.Data.Set.Card
import ValuePath.Records
import ValuePath.Proofs.MemberCalls
import ValuePath.Proofs.WalkFailures

/-! The views of a sequence. Items are reached by index through a path, whether they are
those of a list, of an array or of an object that is iterated; a list also answers to
methods that reach items, count them and search them. All of these agree on which
positions there are and on what stands at them. -/
namespace ValuePath.SequenceViews
open MemberCalls WalkFailures

/-- What comes of looking for the item at a position. -/
inductive Outcome (items : List Value) (position : Nat) : Except EvalError Value → Prop where
  | inside (stands : items[position]? = some value) : Outcome items position (.ok value)
  | outside (beyond : items.length ≤ position) :
      Outcome items position (.error (.indexOutOfRange position))

/-- The position of a needle is that of the first item that equals it, and negative
exactly if the list does not contain the needle, so that no item equals it. -/
structure Located (evaluator : Evaluator) (items : List Value) (needle : Value)
    (position : Int32) (contained : Bool) : Prop where
  missing : contained = true ↔ 0 ≤ position.toInt
  somewhere : contained = true ↔ ∃ index value,
    evaluator.step (.list items) (.index (some index)) = .ok value ∧ value.equals needle = true
  here : 0 ≤ position.toInt → ∃ value,
    evaluator.step (.list items) (.index (some position.toInt64)) = .ok value ∧
      value.equals needle = true
  earlier : ∀ (index : Int64) value, index.toInt < position.toInt →
    evaluator.step (.list items) (.index (some index)) = .ok value → value.equals needle = false

/-- The methods of a list agree with the indices of a path. -/
structure MethodsAgree (evaluator : Evaluator) (items : List Value) (needle : Value) : Prop where
  /-- An item is given exactly at the positions at which a path reaches it. -/
  get : ∀ (index : Int32) value,
    call evaluator.objects (.list items) "get" [.int index] = .ok value ↔
      0 ≤ index.toInt ∧ evaluator.step (.list items) (.index (some index.toInt64)) = .ok value
  /-- The size counts the indices that lead to an item. -/
  size : ∃ count : Int32,
    call evaluator.objects (.list items) "size" [] = .ok (.int count) ∧
    count.toInt = Set.ncard {index : Int64 | 0 ≤ index.toInt ∧
      ∃ value, evaluator.step (.list items) (.index (some index)) = .ok value}
  isEmpty : ∃ empty : Bool,
    call evaluator.objects (.list items) "isEmpty" [] = .ok (.boolean empty) ∧
    (empty = true ↔ call evaluator.objects (.list items) "size" [] = .ok (.int 0))
  search : ∃ (position : Int32) (contained : Bool),
    call evaluator.objects (.list items) "indexOf" [needle] = .ok (.int position) ∧
    call evaluator.objects (.list items) "contains" [needle] = .ok (.boolean contained) ∧
    Located evaluator items needle position contained

/-! ## Indices of a path -/

section Indices
variable {evaluator : Evaluator} {current value : Value} {items : List Value} {index : Int64}

theorem outcome_of_elements (iterable : elements? evaluator.objects current = some items)
    (usable : 0 ≤ index.toInt) :
    Outcome items index.toInt.toNat (evaluator.step current (.index (some index))) := by
  have positive : 0 ≤ index := Int64.le_iff_toInt_le.mpr usable
  rw [Evaluator.step, readIndex_usable positive, iterable]
  cases found : items[index.toInt.toNat]? with
  | some value =>
    simp only [found]
    exact .inside found
  | none =>
    simp only [found]
    exact .outside (List.getElem?_eq_none_iff.mp found)

theorem Outcome.unique {position : Nat} {result other : Except EvalError Value}
    (outcome : Outcome items position result) (also : Outcome items position other) :
    result = other := by
  cases outcome with
  | inside stands =>
    cases also with
    | inside standsToo => rw [Option.some.inj (stands.symm.trans standsToo)]
    | outside beyond => cases stands.symm.trans (List.getElem?_eq_none beyond)
  | outside beyond =>
    cases also with
    | inside stands => cases stands.symm.trans (List.getElem?_eq_none beyond)
    | outside beyondToo => rfl

theorem step_ok_iff (iterable : elements? evaluator.objects current = some items) :
    evaluator.step current (.index (some index)) = .ok value ↔
      0 ≤ index.toInt ∧ items[index.toInt.toNat]? = some value := by
  by_cases usable : 0 ≤ index.toInt
  · have outcome := outcome_of_elements iterable usable
    constructor
    · intro reached
      rw [reached] at outcome
      cases outcome with
      | inside stands => exact ⟨usable, stands⟩
    · rintro ⟨-, stands⟩
      exact outcome.unique (.inside stands)
  · have negative : index < 0 := by
      rw [Int64.lt_iff_toInt_lt, Int64.toInt_zero]
      exact Int.not_le.mp usable
    simp [Evaluator.step, Evaluator.readIndex, negative, usable]

theorem toInt_position {position : Nat} (fits : (items.length : Int) ≤ greatestInt)
    (inside : position < items.length) : (Int64.ofNat position).toInt = position := by
  rw [greatestInt] at fits
  exact Int64.toInt_ofNat_of_lt (by omega)

/-- As many indices lead to an item as there are items. -/
theorem ncard_indices (iterable : elements? evaluator.objects current = some items)
    (fits : (items.length : Int) ≤ greatestInt) :
    Set.ncard {index : Int64 | 0 ≤ index.toInt ∧
      ∃ value, evaluator.step current (.index (some index)) = .ok value} = items.length := by
  refine Set.ncard_eq_of_bijective (fun position _ => Int64.ofNat position) ?_ ?_ ?_
  · rintro index ⟨usable, value, reached⟩
    obtain ⟨-, stands⟩ := (step_ok_iff iterable).mp reached
    have inside := (List.getElem?_eq_some_iff.mp stands).1
    refine ⟨index.toInt.toNat, inside, Int64.toInt_inj.mp ?_⟩
    rw [toInt_position fits inside, Int.toNat_of_nonneg usable]
  · intro position inside
    have named := toInt_position fits inside
    have positive : 0 ≤ (Int64.ofNat position).toInt := by omega
    refine ⟨positive, items[position], (step_ok_iff iterable).mpr ⟨positive, ?_⟩⟩
    rw [named, Int.toNat_natCast]
    exact List.getElem?_eq_getElem inside
  · intro position other inside insideToo same
    have counted := congrArg Int64.toInt same
    rw [toInt_position fits inside, toInt_position fits insideToo] at counted
    exact Int.ofNat_inj.mp counted

end Indices

/-! ## Methods of a list -/

section Methods
variable {objects : Objects} {items : List Value} {needle result : Value}

theorem object_accepts (objects : Objects) (arg : Value) :
    signatureAccepts objects [.object] [arg] = true := by
  simp [signatureAccepts, accepts]

theorem get_ok_iff {index : Int32} :
    call objects (.list items) "get" [.int index] = .ok result ↔
      0 ≤ index.toInt ∧ items[index.toInt.toNat]? = some result := by
  have answered : ListMembers.item items index = .ok result ↔
      (if index < 0 then none else items[index.toInt.toNat]?) = some result := by
    rw [ListMembers.item]
    cases (if index < 0 then none else items[index.toInt.toNat]?) <;> simp
  exact (list_call_ok_iff rfl rfl rfl (by simp)).trans (answered.trans positional_iff)

theorem size_ok_iff : call objects (.list items) "size" [] = .ok result ↔
    intOfCount items.length = .ok result :=
  list_call_ok_iff rfl rfl rfl (by simp)

theorem isEmpty_answers : call objects (.list items) "isEmpty" [] = .ok (.boolean items.isEmpty) :=
  (list_call_ok_iff rfl rfl rfl (by simp)).mpr rfl

theorem contains_answers : call objects (.list items) "contains" [needle] =
    .ok (.boolean (items.any (·.equals needle))) :=
  (list_call_ok_iff rfl (object_accepts objects needle) rfl (by simp)).mpr rfl

theorem indexOf_ok_iff : call objects (.list items) "indexOf" [needle] = .ok result ↔
    ListMembers.indexOf items needle = .ok result :=
  list_call_ok_iff rfl (object_accepts objects needle) rfl (by simp)

end Methods

section Agreement
variable {evaluator : Evaluator} {items : List Value} {needle : Value}

theorem size_agrees (fits : (items.length : Int) ≤ greatestInt) : ∃ count : Int32,
    call evaluator.objects (.list items) "size" [] = .ok (.int count) ∧
    count.toInt = Set.ncard {index : Int64 | 0 ≤ index.toInt ∧
      ∃ value, evaluator.step (.list items) (.index (some index)) = .ok value} := by
  obtain ⟨count, named, counted⟩ := intOfCount_ok fits
  refine ⟨count, size_ok_iff.mpr named, ?_⟩
  rw [counted, ncard_indices rfl fits]

theorem isEmpty_agrees {objects : Objects} (fits : (items.length : Int) ≤ greatestInt) :
    items.isEmpty = true ↔ call objects (.list items) "size" [] = .ok (.int 0) := by
  obtain ⟨count, named, counted⟩ := intOfCount_ok fits
  rw [size_ok_iff, named, List.isEmpty_iff, ← List.length_eq_zero_iff]
  simp only [Except.ok.injEq, Value.int.injEq, ← Int32.toInt_inj, counted, Int32.toInt_zero]
  omega

/-- The items that a path reaches are all items. -/
theorem reached_iff {holds : Value → Bool} (fits : (items.length : Int) ≤ greatestInt) :
    items.any holds = true ↔ ∃ index value,
      evaluator.step (.list items) (.index (some index)) = .ok value ∧ holds value = true := by
  rw [List.any_eq_true]
  constructor
  · rintro ⟨value, member, held⟩
    obtain ⟨position, inside, stands⟩ := List.getElem_of_mem member
    refine ⟨Int64.ofNat position, value, (step_ok_iff rfl).mpr ?_, held⟩
    rw [toInt_position fits inside, Int.toNat_natCast]
    exact ⟨by omega, stands ▸ List.getElem?_eq_getElem inside⟩
  · rintro ⟨index, value, reached, held⟩
    exact ⟨value, List.mem_of_getElem? ((step_ok_iff rfl).mp reached).2, held⟩

theorem search_agrees (fits : (items.length : Int) ≤ greatestInt) :
    ∃ (position : Int32) (contained : Bool),
      call evaluator.objects (.list items) "indexOf" [needle] = .ok (.int position) ∧
      call evaluator.objects (.list items) "contains" [needle] = .ok (.boolean contained) ∧
      Located evaluator items needle position contained := by
  cases found : items.findIdx? (·.equals needle) with
  | none =>
    have least : (-1 : Int32).toInt = -1 := by decide
    have absent : items.any (·.equals needle) = false := by
      rw [← List.findIdx?_isSome, found]
      rfl
    refine ⟨-1, _, indexOf_ok_iff.mpr ?_, contains_answers, ?_, reached_iff fits, fun none => ?_,
      fun index value less reached => ?_⟩
    · rw [ListMembers.indexOf, found]
    · rw [absent, least]
      exact ⟨nofun, nofun⟩
    · rw [least] at none
      exact absurd none (by decide)
    · have usable := ((step_ok_iff rfl).mp reached).1
      omega
  | some start =>
    obtain ⟨inside, equal, before⟩ := List.findIdx?_eq_some_iff_getElem.mp found
    have nameable : (start : Int) ≤ greatestInt := by omega
    obtain ⟨position, named, counted⟩ := intOfCount_ok nameable
    have present : items.any (·.equals needle) = true := by
      rw [← List.findIdx?_isSome, found]
      rfl
    refine ⟨position, _, indexOf_ok_iff.mpr ?_, contains_answers, ?_, reached_iff fits,
      fun _ => ⟨items[start], (step_ok_iff rfl).mpr ?_, equal⟩, fun index value less reached => ?_⟩
    · rw [ListMembers.indexOf, found]
      exact named
    · rw [present, counted]
      exact ⟨fun _ => Int.natCast_nonneg start, fun _ => rfl⟩
    · rw [Int32.toInt_toInt64, counted, Int.toNat_natCast]
      exact ⟨Int.natCast_nonneg start, List.getElem?_eq_getElem inside⟩
    · obtain ⟨usable, stands⟩ := (step_ok_iff rfl).mp reached
      obtain ⟨within, same⟩ := List.getElem?_eq_some_iff.mp stands
      have earlier : index.toInt.toNat < start := by omega
      rw [← same]
      exact Bool.eq_false_iff.mpr (before _ earlier)

end Agreement

/-- All views of a sequence agree. A path that takes an element comes to the same on a
list, on an array and on an object that is iterated, if they have the same items: to the
item at the index, or to the report that the index is out of range. The methods of the
list reach the same items, count the indices that lead to one, and find the first item
that equals a needle, whatever equality says of the needle itself. -/
theorem sequence_views_agree (evaluator : Evaluator) (items : List Value) (id : ObjectId)
    (needle : Value) (fits : (items.length : Int) ≤ greatestInt)
    (iterated : (evaluator.objects id).items = some items) :
    (∀ index : Int64, 0 ≤ index.toInt → ∃ outcome, Outcome items index.toInt.toNat outcome ∧
      ∀ current ∈ [Value.list items, .array items, .object id],
        evaluator.step current (.index (some index)) = outcome) ∧
    MethodsAgree evaluator items needle := by
  refine ⟨fun index usable => ?_, ?get, size_agrees fits,
    ⟨_, isEmpty_answers, isEmpty_agrees fits⟩, search_agrees fits⟩
  · have outcome : Outcome items index.toInt.toNat
        (evaluator.step (.list items) (.index (some index))) := outcome_of_elements rfl usable
    refine ⟨_, outcome, fun current member => ?_⟩
    have iterable : elements? evaluator.objects current = some items := by
      simp only [List.mem_cons, List.not_mem_nil, or_false] at member
      rcases member with rfl | rfl | rfl
      · rfl
      · rfl
      · exact iterated
    exact (outcome_of_elements iterable usable).unique outcome
  case get =>
    intro index value
    rw [get_ok_iff, step_ok_iff rfl, Int32.toInt_toInt64]
    exact ⟨fun stands => ⟨stands.1, stands⟩, fun both => both.2⟩

/-- A queue of a double that is no number, and of two lists that hold such a double.
The views of the queue agree, also where one of its own items is looked for, which
does not equal itself. -/
theorem views_of_queue_agree :
    let items : List Value := [.double .nan, .list [.double .nan], .list [.double .nan]]
    let queue : Record := ⟨"q", "Queue", [], [], [], some items, "Queue"⟩
    let evaluator : Evaluator := ⟨Record.objects [queue], [], 3⟩
    (items.length : Int) ≤ greatestInt ∧ (evaluator.objects 0).items = some items ∧
      Outcome items 2 (evaluator.step (.object 0) (.index (some 2))) ∧
      MethodsAgree evaluator items (.list [.double .nan]) ∧
      MethodsAgree evaluator items (.double .nan) := by
  intro items queue evaluator
  have fits : (items.length : Int) ≤ greatestInt := by decide
  have iterated : (evaluator.objects 0).items = some items := rfl
  obtain ⟨views, onLists⟩ :=
    sequence_views_agree evaluator items 0 (.list [.double .nan]) fits iterated
  obtain ⟨outcome, due, same⟩ := views 2 (by decide)
  refine ⟨fits, iterated, ?_, onLists,
    (sequence_views_agree evaluator items 0 (.double .nan) fits iterated).2⟩
  rw [same (.object 0) (by simp)]
  exact due

end ValuePath.SequenceViews
