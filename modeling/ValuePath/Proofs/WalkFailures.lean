import ValuePath.Proofs.CallSteps
import ValuePath.Proofs.DistinctKeys
import ValuePath.Proofs.SlotRenaming

/-! Why a path does not resolve. A step looks at its own position or slots first,
then at whether there is a value at all, and then at the value; the error says which
of these it was. A walk that fails has one place up to which it gets, and every walk
that goes further fails there with the same error, so that the error of a path can
be found by cutting the path short. -/
namespace ValuePath.WalkFailures
open OverloadDispatch CallSteps
open LookupComposition (evaluate_found error_of_prefix)
open SlotRenaming (supplied_of_resolved tryEvaluate_cons tryEvaluate_failed)

/-- The items that positions refer to: those of a sequence, or of an object that can
be iterated. -/
def elements? (objects : Objects) : Value → Option (List Value)
  | .array items | .list items => some items
  | .object id => (objects id).items
  | _ => none

/-- Which error a step from a value fails with. -/
inductive Fails (evaluator : Evaluator) : Value → Segment → EvalError → Prop where
  | missingIndex : Fails evaluator value (.index none) .missingIndex
  | negativeIndex (negative : position < 0) :
      Fails evaluator value (.index (some position)) (.negativeIndex position)
  | elementOfNull (usable : 0 ≤ position) :
      Fails evaluator .null (.index (some position))
        (.nullReceiver (Segment.index (some position)).display)
  | notIterable (usable : 0 ≤ position) (notNull : value ≠ .null)
      (bare : elements? evaluator.objects value = none) :
      Fails evaluator value (.index (some position))
        (.notIterable (value.typeName evaluator.objects))
  | indexOutOfRange (usable : 0 ≤ position)
      (iterable : elements? evaluator.objects value = some items)
      (short : items.length ≤ position.toInt.toNat) :
      Fails evaluator value (.index (some position)) (.indexOutOfRange position.toInt.toNat)
  | argumentOutOfRange (first : slots = before ++ slot :: after)
      (inside : ∀ earlier ∈ before, earlier.toNat < evaluator.args.length)
      (outside : evaluator.args.length ≤ slot.toNat) :
      Fails evaluator value (.method name slots)
        (.argumentOutOfRange slot.toNat evaluator.args.length)
  | callOnNull (supplied : Supplied evaluator.args slots values) :
      Fails evaluator .null (.method name slots)
        (.nullReceiver (Segment.method name slots).display)
  | methodNotFound (supplied : Supplied evaluator.args slots values)
      (typed : value.typeInfo? evaluator.objects = some info)
      (none : ∀ method ∈ info.methods name slots.length,
        signatureAccepts evaluator.objects method.params values = false) :
      Fails evaluator value (.method name slots) (.methodNotFound info.name name slots.length)
  | invocation (chosen : Chosen evaluator value name slots values info method)
      (failed : method.invoke value values = .error source) :
      Fails evaluator value (.method name slots)
        (.invocation (Segment.method name slots).display source)
  | fieldOfNull : Fails evaluator .null (.field name) (.nullReceiver (Segment.field name).display)
  | keyNotFound (absent : name ∉ Entries.keys entries) :
      Fails evaluator (.map entries) (.field name) (.fieldNotFound "Map" name)
  | fieldNotFound (noMap : value.asEntries? = none)
      (typed : value.typeInfo? evaluator.objects = some info)
      (unreadable : ∀ field, info.field? name = some field → field.read value = none) :
      Fails evaluator value (.field name) (.fieldNotFound info.name name)

/-- The walk gets to this value with the segments before the position, and fails
with this error whenever it goes further. -/
structure StopsAt (evaluator : Evaluator) (root : Value) (path : Path) (position : Nat)
    (value : Value) (error : EvalError) : Prop where
  reached : evaluator.tryEvaluate root ⟨path.segments.take position⟩ = .ok value
  beyond : ∀ longer, position < longer →
    evaluator.tryEvaluate root ⟨path.segments.take longer⟩ = .error error

/-- No value has what the segment asks for: its position is negative or missing, or
one of its slots has no argument. -/
def Hopeless (args : List Value) : Segment → Prop
  | .field _ => False
  | .method _ slots => ∃ slot ∈ slots, args.length ≤ slot.toNat
  | .index none => True
  | .index (some position) => position < 0

/-! ## One step -/

section Steps
variable {evaluator : Evaluator} {value : Value} {error : EvalError}

theorem call_fails_iff {name : String} {slots : List UInt64} :
    evaluator.step value (.method name slots) = .error error ↔
      Fails evaluator value (.method name slots) error := by
  rw [step_call_iff]
  constructor
  · intro called
    generalize result : (Except.error error : Except EvalError Value) = outcome at called
    cases called with
    | outOfRange first inside outside => cases result; exact .argumentOutOfRange first inside outside
    | onNull supplied null => cases result; subst null; exact .callOnNull supplied
    | notFound supplied typed none => cases result; exact .methodNotFound supplied typed none
    | @invoked values info method chosen =>
      cases failed : method.invoke value values with
      | ok given => rw [failed] at result; cases result
      | error source => rw [failed] at result; cases result; exact .invocation chosen failed
  · intro fails
    cases fails with
    | argumentOutOfRange first inside outside => exact .outOfRange first inside outside
    | callOnNull supplied => exact .onNull supplied rfl
    | methodNotFound supplied typed none => exact .notFound supplied typed none
    | invocation chosen failed =>
      have called := CallResult.invoked chosen
      rwa [failed] at called

/-- The entries of a map are its fields. -/
theorem readField_map {name : String} {entries : List (String × Value)} :
    evaluator.readField (.map entries) name =
      match Entries.find? name entries with
      | some found => .ok found
      | none => .error (.fieldNotFound "Map" name) := rfl

theorem not_mem_keys_iff {name : String} {entries : List (String × Value)} :
    name ∉ Entries.keys entries ↔ Entries.find? name entries = none := by
  rw [← DistinctKeys.find_isSome_iff, Option.not_isSome_iff_eq_none]

/-- Values that are no maps are asked for a field by their member tables. -/
theorem readField_typed {name : String} {info : TypeInfo} (noMap : value.asEntries? = none)
    (typed : value.typeInfo? evaluator.objects = some info) :
    evaluator.readField value name =
      match (info.field? name).bind (·.read value) with
      | some found => .ok found
      | none => .error (.fieldNotFound info.name name) := by
  unfold Evaluator.readField
  split
  · cases noMap
  · cases found : (info.field? name).bind (·.read value) <;> simp only [typed, found]

theorem fails_of_typed {name : String} {info : TypeInfo} (noMap : value.asEntries? = none)
    (typed : value.typeInfo? evaluator.objects = some info)
    (failed : evaluator.readField value name = .error error) :
    Fails evaluator value (.field name) error := by
  rw [readField_typed noMap typed] at failed
  cases read : (info.field? name).bind (·.read value) with
  | some found => rw [read] at failed; cases failed
  | none =>
    rw [read] at failed
    cases failed
    exact .fieldNotFound noMap typed (Option.bind_eq_none_iff.mp read)

theorem field_fails_iff {name : String} : evaluator.step value (.field name) = .error error ↔
    Fails evaluator value (.field name) error := by
  change evaluator.readField value name = .error error ↔ _
  constructor
  · intro failed
    cases typed : value.typeInfo? evaluator.objects with
    | none =>
      rw [typeInfo_none_iff] at typed
      subst typed
      cases failed
      exact .fieldOfNull
    | some info =>
      cases value with
      | map entries =>
        rw [readField_map] at failed
        cases found : Entries.find? name entries with
        | some held => rw [found] at failed; cases failed
        | none =>
          rw [found] at failed
          cases failed
          exact .keyNotFound (not_mem_keys_iff.mpr found)
      | _ => exact fails_of_typed rfl typed failed
  · intro fails
    cases fails with
    | fieldOfNull => rfl
    | keyNotFound absent => rw [readField_map, not_mem_keys_iff.mp absent]
    | fieldNotFound noMap typed unreadable =>
      rw [readField_typed noMap typed, Option.bind_eq_none_iff.mpr unreadable]

theorem isNull_iff : value.isNull = true ↔ value = .null := by
  cases value <;> simp [Value.isNull]

/-- A position that is not negative is looked up among the items, if there are any. -/
theorem readIndex_usable {position : Int64} (usable : 0 ≤ position) :
    evaluator.readIndex value (some position) =
      match elements? evaluator.objects value with
      | some items =>
        match items[position.toInt.toNat]? with
        | some found => .ok found
        | none => .error (.indexOutOfRange position.toInt.toNat)
      | none =>
        if value.isNull then .error (.nullReceiver (Segment.index (some position)).display)
        else .error (.notIterable (value.typeName evaluator.objects)) := by
  have notNegative : ¬ position < 0 := Int64.not_lt.mpr usable
  cases value with
  | object id =>
    simp only [Evaluator.readIndex, notNegative, elements?, if_false]
    cases (evaluator.objects id).items <;> rfl
  | array items | list items =>
    cases found : items[position.toInt.toNat]? <;>
      simp only [Evaluator.readIndex, notNegative, elements?, found, if_false]
  | _ =>
    simp only [Evaluator.readIndex, notNegative, elements?, if_false]
    rfl

theorem fails_of_usable {position : Int64} (usable : 0 ≤ position)
    (failed : evaluator.readIndex value (some position) = .error error) :
    Fails evaluator value (.index (some position)) error := by
  rw [readIndex_usable usable] at failed
  cases iterable : elements? evaluator.objects value with
  | some items =>
    rw [iterable] at failed
    cases present : items[position.toInt.toNat]? with
    | some found => simp only [present] at failed; cases failed
    | none =>
      simp only [present] at failed
      cases failed
      exact .indexOutOfRange usable iterable (List.getElem?_eq_none_iff.mp present)
  | none =>
    rw [iterable] at failed
    by_cases null : value.isNull
    · rw [if_pos null] at failed
      cases isNull_iff.mp null
      cases failed
      exact .elementOfNull usable
    · rw [if_neg null] at failed
      cases failed
      exact .notIterable usable (mt isNull_iff.mpr null) iterable

theorem index_fails_iff {position : Option Int64} :
    evaluator.step value (.index position) = .error error ↔
      Fails evaluator value (.index position) error := by
  change evaluator.readIndex value position = .error error ↔ _
  constructor
  · intro failed
    cases position with
    | none => cases failed; exact .missingIndex
    | some position =>
      by_cases negative : position < 0
      · rw [Evaluator.readIndex, if_pos negative] at failed
        cases failed
        exact .negativeIndex negative
      · exact fails_of_usable (Int64.not_lt.mp negative) failed
  · intro fails
    cases fails with
    | missingIndex => rfl
    | negativeIndex negative => rw [Evaluator.readIndex, if_pos negative]
    | elementOfNull usable => rw [readIndex_usable usable]; rfl
    | notIterable usable notNull bare =>
      rw [readIndex_usable usable, bare]
      exact if_neg (mt isNull_iff.mp notNull)
    | indexOutOfRange usable iterable short =>
      rw [readIndex_usable usable, iterable]
      simp only [List.getElem?_eq_none short]

/-- A step fails with an error exactly if the value and the segment decide for it. -/
theorem step_fails_iff {segment : Segment} :
    evaluator.step value segment = .error error ↔ Fails evaluator value segment error := by
  cases segment with
  | field name => exact field_fails_iff
  | method name slots => exact call_fails_iff
  | index position => exact index_fails_iff

theorem hopeless_fails {segment : Segment} (hopeless : Hopeless evaluator.args segment)
    (value : Value) : ∃ error, evaluator.step value segment = .error error := by
  cases segment with
  | field name => cases hopeless
  | index position =>
    cases position with
    | none => exact ⟨_, step_fails_iff.mpr .missingIndex⟩
    | some position => exact ⟨_, step_fails_iff.mpr (.negativeIndex hopeless)⟩
  | method name slots =>
    obtain ⟨slot, member, outside⟩ := hopeless
    rcases slots_cases evaluator.args slots with ⟨values, supplied⟩ |
      ⟨before, first, after, split, inside, outside⟩
    · have inside := supplied_of_resolved (resolveArgs_supplied supplied) slot member
      exact absurd outside (Nat.not_le.mpr inside)
    · exact ⟨_, step_fails_iff.mpr (.argumentOutOfRange split inside outside)⟩

end Steps

/-! ## Walks -/

section Walks
variable {evaluator : Evaluator}

/-- A walk that fails stops at some position. -/
theorem stops_exists (segments : List Segment) {root : Value} {error : EvalError}
    (failed : evaluator.tryEvaluate root ⟨segments⟩ = .error error) :
    ∃ position segment value, segments[position]? = some segment ∧
      StopsAt evaluator root ⟨segments⟩ position value error ∧
      Fails evaluator value segment error := by
  induction segments generalizing root with
  | nil => cases failed
  | cons segment rest ih =>
    cases stepped : evaluator.step root segment with
    | error e =>
      rw [tryEvaluate_failed stepped] at failed
      cases failed
      refine ⟨0, segment, root, rfl, ⟨rfl, fun longer further => ?_⟩, step_fails_iff.mp stepped⟩
      obtain ⟨more, rfl⟩ := Nat.exists_eq_succ_of_ne_zero further.ne'
      exact tryEvaluate_failed stepped _
    | ok next =>
      rw [tryEvaluate_cons stepped] at failed
      obtain ⟨position, last, value, present, stops, fails⟩ := ih failed
      refine ⟨position + 1, last, value, present, ⟨?_, fun longer further => ?_⟩, fails⟩
      · exact (tryEvaluate_cons stepped _).trans stops.reached
      · obtain ⟨more, rfl⟩ := Nat.exists_eq_succ_of_ne_zero (Nat.ne_zero_of_lt further)
        exact (tryEvaluate_cons stepped _).trans (stops.beyond more (Nat.lt_of_succ_lt_succ further))

/-- A walk that gets somewhere fails there no further. -/
theorem StopsAt.unique {root : Value} {path : Path} {position other : Nat} {value last : Value}
    {error : EvalError} (stops : StopsAt evaluator root path position value error)
    (stopsToo : StopsAt evaluator root path other last error) : other = position := by
  rcases Nat.lt_trichotomy other position with before | same | behind
  · exact absurd (stops.reached.symm.trans (stopsToo.beyond position before)) nofun
  · exact same
  · exact absurd (stopsToo.reached.symm.trans (stops.beyond other behind)) nofun

/-- Every step of a walk that gets to its end was made. -/
theorem steps_of_walk (segments : List Segment) {root value : Value}
    (resolved : evaluator.tryEvaluate root ⟨segments⟩ = .ok value) :
    ∀ segment ∈ segments, ∃ before after, evaluator.step before segment = .ok after := by
  induction segments generalizing root with
  | nil => simp
  | cons segment rest ih =>
    cases stepped : evaluator.step root segment with
    | error error => rw [tryEvaluate_failed stepped] at resolved; cases resolved
    | ok next =>
      rw [tryEvaluate_cons stepped] at resolved
      exact List.forall_mem_cons.mpr ⟨⟨root, next, stepped⟩, ih resolved⟩

theorem hopeless_path_fails {path : Path} {segment : Segment} (member : segment ∈ path.segments)
    (hopeless : Hopeless evaluator.args segment) (root : Value) :
    ∃ error, evaluator.tryEvaluate root path = .error error := by
  cases resolved : evaluator.tryEvaluate root path with
  | error error => exact ⟨error, rfl⟩
  | ok value =>
    obtain ⟨before, after, stepped⟩ := steps_of_walk path.segments resolved segment member
    obtain ⟨error, failed⟩ := hopeless_fails hopeless before
    cases stepped.symm.trans failed

end Walks

/-- Reports of failures are exact. A walk that fails has just one position up to
which it gets and behind which every longer walk fails with the same error, and the
value and the segment at this position decide which error that is. A path with a
position that is negative or missing, or with a slot that has no argument, resolves
from no value. -/
theorem failures_are_exact (evaluator : Evaluator) :
    (∀ (root : Value) (path : Path) (error : EvalError),
      evaluator.tryEvaluate root path = .error error →
        ∃ position segment value, path.segments[position]? = some segment ∧
          StopsAt evaluator root path position value error ∧
          Fails evaluator value segment error ∧
          ∀ other last, StopsAt evaluator root path other last error → other = position) ∧
    (∀ (value : Value) (segment : Segment) (error : EvalError),
      evaluator.step value segment = .error error ↔ Fails evaluator value segment error) ∧
    ∀ path : Path, (∃ segment ∈ path.segments, Hopeless evaluator.args segment) →
      ∀ root, (∃ error, evaluator.tryEvaluate root path = .error error) ∧
        (evaluator.evaluate root path).1 = none := by
  refine ⟨fun root path error failed => ?_, fun _ _ _ => step_fails_iff, ?_⟩
  · obtain ⟨position, segment, value, present, stops, fails⟩ := stops_exists path.segments failed
    exact ⟨position, segment, value, present, stops, fails,
      fun other last stopsToo => stops.unique stopsToo⟩
  · rintro path ⟨segment, member, hopeless⟩ root
    obtain ⟨error, failed⟩ := hopeless_path_fails member hopeless root
    exact ⟨⟨error, failed⟩, by rw [evaluate_found, failed]; rfl⟩

/-- A name has fewer characters than a path asks for: the walk gets to the name and
fails in the call, however it goes on. A path to the last but one user, counted from
the end, resolves from no value. -/
theorem short_name_stops_walk :
    let evaluator : Evaluator := ⟨Objects.empty, [.int 9], 3⟩
    let root : Value := .map [("user", .map [("name", .string "Ada")])]
    let call : Segment := .method "charAt" [0]
    let path : Path := ⟨[.field "user", .field "name", call, .field "upper"]⟩
    let error : EvalError :=
      .invocation "charAt(\x7b0\x7d)" (.failed "index 9 out of bounds for length 3")
    let last : Path := ⟨[.field "users", .index (some (-2))]⟩
    evaluator.tryEvaluate root path = .error error ∧
      StopsAt evaluator root path 2 (.string "Ada") error ∧
      Fails evaluator (.string "Ada") call error ∧
      (∀ other last, StopsAt evaluator root path other last error → other = 2) ∧
      (∃ segment ∈ last.segments, Hopeless evaluator.args segment) ∧
      (∃ error, evaluator.tryEvaluate root last = .error error) := by
  intro evaluator root call path error last
  obtain ⟨reported, -, unresolved⟩ := failures_are_exact evaluator
  have failed : evaluator.tryEvaluate root path = .error error := by rfl
  have called : evaluator.tryEvaluate root ⟨path.segments.take 3⟩ = .error error := by rfl
  have atName : StopsAt evaluator root path 2 (.string "Ada") error :=
    ⟨by rfl, fun longer further =>
      error_of_prefix evaluator (List.take_prefix_take_left further) called⟩
  obtain ⟨position, segment, value, present, stops, fails, unique⟩ := reported root path error failed
  cases unique 2 _ atName
  cases present
  cases stops.reached.symm.trans atName.reached
  have hopeless : ∃ segment ∈ last.segments, Hopeless evaluator.args segment :=
    ⟨_, List.mem_cons_of_mem _ List.mem_cons_self, (by decide : (-2 : Int64) < 0)⟩
  exact ⟨failed, atName, fails, unique, hopeless, (unresolved last hopeless root).1⟩

end ValuePath.WalkFailures
