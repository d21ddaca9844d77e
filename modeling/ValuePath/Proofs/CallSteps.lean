import ValuePath.Proofs.OverloadDispatch

/-! What a call on a value comes to, for whatever member table the value has. First
the slots are looked at, then the receiver; the first overload that accepts the
arguments is called, and the call gives what its body gives. -/
namespace ValuePath.CallSteps
open OverloadDispatch

/-- The overloads of a name, with a parameter for each slot, that accept the arguments
in the slots, in the order of their registration. -/
def accepting (evaluator : Evaluator) (info : TypeInfo) (name : String) (slots : List UInt64)
    (values : List Value) : List Method :=
  (info.methods name slots.length).filter fun method =>
    signatureAccepts evaluator.objects method.params values

/-- The overload that a call reaches: the first one of its name, with a parameter
for each slot, that accepts the arguments in the slots. -/
structure Chosen (evaluator : Evaluator) (current : Value) (name : String) (slots : List UInt64)
    (values : List Value) (info : TypeInfo) (method : Method) : Prop where
  supplied : Supplied evaluator.args slots values
  typed : current.typeInfo? evaluator.objects = some info
  earliest : ∃ before after, info.methods name slots.length = before ++ method :: after ∧
    ∀ earlier ∈ before, signatureAccepts evaluator.objects earlier.params values = false
  accepted : signatureAccepts evaluator.objects method.params values = true

/-- What a call comes to. -/
inductive CallResult (evaluator : Evaluator) (current : Value) (name : String)
    (slots : List UInt64) : Except EvalError Value → Prop where
  | outOfRange (first : slots = before ++ slot :: after)
      (inside : ∀ earlier ∈ before, earlier.toNat < evaluator.args.length)
      (outside : evaluator.args.length ≤ slot.toNat) :
      CallResult evaluator current name slots
        (.error (.argumentOutOfRange slot.toNat evaluator.args.length))
  | onNull (supplied : Supplied evaluator.args slots values) (null : current = .null) :
      CallResult evaluator current name slots
        (.error (.nullReceiver (Segment.method name slots).display))
  | notFound (supplied : Supplied evaluator.args slots values)
      (typed : current.typeInfo? evaluator.objects = some info)
      (none : ∀ method ∈ info.methods name slots.length,
        signatureAccepts evaluator.objects method.params values = false) :
      CallResult evaluator current name slots
        (.error (.methodNotFound info.name name slots.length))
  | invoked (chosen : Chosen evaluator current name slots values info method) :
      CallResult evaluator current name slots
        ((method.invoke current values).mapError (.invocation (Segment.method name slots).display))

/-- Null alone has no member table. -/
theorem typeInfo_none_iff {objects : Objects} {value : Value} :
    value.typeInfo? objects = none ↔ value = .null := by
  cases value <;> simp [Value.typeInfo?, Value.kind?]

section
variable {evaluator : Evaluator} {current : Value} {name : String} {slots : List UInt64}
  {values : List Value} {info : TypeInfo}

theorem prepareCall_outside {before after : List UInt64} {slot : UInt64}
    (inside : ∀ earlier ∈ before, earlier.toNat < evaluator.args.length)
    (outside : evaluator.args.length ≤ slot.toNat) :
    evaluator.prepareCall current name (before ++ slot :: after) =
      .error (.argumentOutOfRange slot.toNat evaluator.args.length) := by
  rw [Evaluator.prepareCall, resolveArgs_outside inside outside]

theorem prepareCall_null (supplied : Supplied evaluator.args slots values) :
    evaluator.prepareCall .null name slots =
      .error (.nullReceiver (Segment.method name slots).display) := by
  rw [Evaluator.prepareCall, resolveArgs_supplied supplied]
  rfl

theorem prepareCall_typed (supplied : Supplied evaluator.args slots values)
    (typed : current.typeInfo? evaluator.objects = some info) :
    evaluator.prepareCall current name slots =
      .ok (info, values, accepting evaluator info name slots values) := by
  rw [Evaluator.prepareCall, resolveArgs_supplied supplied, accepting, supplied.length_eq]
  simp only [typed, Evaluator.candidates]

/-- The chosen overload stands first among those that accept the arguments. -/
theorem Chosen.accepting_eq {method : Method}
    (chosen : Chosen evaluator current name slots values info method) :
    ∃ others, accepting evaluator info name slots values = method :: others := by
  obtain ⟨before, after, split, passed⟩ := chosen.earliest
  refine ⟨after.filter fun method => signatureAccepts evaluator.objects method.params values, ?_⟩
  have none : before.filter (fun method =>
      signatureAccepts evaluator.objects method.params values) = [] :=
    List.filter_eq_nil_iff.mpr fun earlier member => by simp [passed earlier member]
  rw [accepting, split, List.filter_append, none, List.nil_append,
    List.filter_cons_of_pos (by exact chosen.accepted)]

/-- The first of the overloads that accept the arguments is chosen. -/
theorem chosen_of_accepting {method : Method} {others : List Method}
    (supplied : Supplied evaluator.args slots values)
    (typed : current.typeInfo? evaluator.objects = some info)
    (first : accepting evaluator info name slots values = method :: others) :
    Chosen evaluator current name slots values info method := by
  obtain ⟨before, after, split, passed, accepted, -⟩ := List.filter_eq_cons_iff.mp first
  refine ⟨supplied, typed, ⟨before, after, split, fun earlier member => ?_⟩, accepted⟩
  exact Bool.eq_false_iff.mpr (passed earlier member)

theorem accepting_eq_nil_iff : accepting evaluator info name slots values = [] ↔
    ∀ method ∈ info.methods name slots.length,
      signatureAccepts evaluator.objects method.params values = false := by
  simp only [accepting, List.filter_eq_nil_iff, Bool.not_eq_true]

theorem step_of_callResult {result : Except EvalError Value}
    (called : CallResult evaluator current name slots result) :
    evaluator.step current (.method name slots) = result := by
  simp only [Evaluator.step, Evaluator.callMethod]
  cases called with
  | outOfRange first inside outside => rw [first, prepareCall_outside inside outside]
  | onNull supplied null => rw [null, prepareCall_null supplied]
  | notFound supplied typed none =>
    rw [prepareCall_typed supplied typed, accepting_eq_nil_iff.mpr none]
    simp only [supplied.length_eq]
  | invoked chosen =>
    obtain ⟨others, first⟩ := chosen.accepting_eq
    rw [prepareCall_typed chosen.supplied chosen.typed, first]

/-- A call always comes to something. -/
theorem callResult_exists (evaluator : Evaluator) (current : Value) (name : String)
    (slots : List UInt64) : ∃ result, CallResult evaluator current name slots result := by
  rcases slots_cases evaluator.args slots with ⟨values, supplied⟩ |
    ⟨before, slot, after, first, inside, outside⟩
  · cases typed : current.typeInfo? evaluator.objects with
    | none => exact ⟨_, .onNull supplied (typeInfo_none_iff.mp typed)⟩
    | some info =>
      cases first : accepting evaluator info name slots values with
      | nil => exact ⟨_, .notFound supplied typed (accepting_eq_nil_iff.mp first)⟩
      | cons method others => exact ⟨_, .invoked (chosen_of_accepting supplied typed first)⟩
  · exact ⟨_, .outOfRange first inside outside⟩

/-- A call gives exactly what it comes to. -/
theorem step_call_iff {result : Except EvalError Value} :
    evaluator.step current (.method name slots) = result ↔
      CallResult evaluator current name slots result := by
  refine ⟨?_, step_of_callResult⟩
  rintro rfl
  obtain ⟨result, called⟩ := callResult_exists evaluator current name slots
  rwa [step_of_callResult called]

end

end ValuePath.CallSteps
