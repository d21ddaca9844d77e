import ValuePath.Proofs.CallSteps
import ValuePath.Proofs.MemberBodies

/-! How calls on values of built-in types fail. The arguments of a call that is made
were accepted by the parameters of the overload, so that none is missing and every
int is an int; but null is accepted where a string is declared, and a body that reads
the string finds that it is none. -/
namespace ValuePath.BuiltinCalls
open OverloadDispatch CallSteps MemberBodies

/-- Strings, sequences, maps and scalars. -/
def BuiltIn : Value → Prop
  | .null | .object _ => False
  | _ => True

/-- A string is declared at this position, and null is supplied. -/
def NullForString (params : List TypeRef) (args : List Value) (index : Nat) : Prop :=
  params[index]? = some .string ∧ args[index]? = some .null

/-- The first position at which null is supplied for a string. -/
structure FirstNull (params : List TypeRef) (args : List Value) (index : Nat) : Prop where
  here : NullForString params args index
  earlier : ∀ before < index, ¬ NullForString params args before

/-- What a call on a value of a built-in type may come to. -/
inductive Intended (name : String) (slots : List UInt64) : Except EvalError Value → Prop where
  | value (value : Value) : Intended name slots (.ok value)
  | argumentOutOfRange (slot supplied : Nat) :
      Intended name slots (.error (.argumentOutOfRange slot supplied))
  | methodNotFound (typeName : String) (arity : Nat) :
      Intended name slots (.error (.methodNotFound typeName name arity))
  | failed (reason : String) : Intended name slots
      (.error (.invocation (Segment.method name slots).display (.failed reason)))
  | nullForString (index : Nat) : Intended name slots
      (.error (.invocation (Segment.method name slots).display (.argumentType index "String")))

/-! ## Accepted arguments -/

section Accepted
variable {objects : Objects} {arg : Value}

theorem accepts_int
    (accepted : accepts objects (some (.primitive .int)) (arg.runtimeType? objects) arg = true) :
    ∃ n, arg = .int n := by
  cases arg with
  | int n => exact ⟨n, rfl⟩
  | _ => cases accepted

theorem accepts_string
    (accepted : accepts objects (some .string) (arg.runtimeType? objects) arg = true) :
    arg = .null ∨ ∃ text, arg = .string text := by
  cases arg with
  | null => exact .inl rfl
  | string text => exact .inr ⟨text, rfl⟩
  | _ => cases accepted

end Accepted

/-- Behind the first parameter, the positions of nulls are counted from the next one. -/
theorem nullForString_behind {param : TypeRef} {rest : List TypeRef} {args : List Value}
    {start index : Nat} : NullForString (param :: rest) (args.drop start) (index + 1) ↔
      NullForString rest (args.drop (start + 1)) index := by
  rw [NullForString, NullForString, List.getElem?_drop, List.getElem?_drop,
    Nat.add_comm index 1, ← Nat.add_assoc, Nat.add_comm 1 index, List.getElem?_cons_succ]

/-- An argument that was accepted and does not suit is null in place of a string. -/
theorem null_of_complaint {objects : Objects} {args : List Value} {index : Nat} {param : TypeRef}
    {error : InvokeError} {arg : Value} (given : args[index]? = some arg)
    (accepted : accepts objects (some param) (arg.runtimeType? objects) arg = true)
    (complaint : Complaint args index param error) :
    param = .string ∧ arg = .null ∧ error = .argumentType index "String" := by
  cases complaint with
  | missing beyond => cases given.symm.trans (List.getElem?_eq_none beyond)
  | noInt found other =>
    cases given.symm.trans found
    obtain ⟨n, same⟩ := accepts_int accepted
    exact absurd same (other n)
  | noString found other =>
    cases given.symm.trans found
    rcases accepts_string accepted with null | ⟨text, same⟩
    · exact ⟨rfl, null, rfl⟩
    · exact absurd same (other text)

/-- Where the arguments behind a position were accepted, looking at them finds
nothing wrong but null in place of a string. -/
theorem result_of_checked {objects : Objects} {args : List Value} {start : Nat}
    {params : List TypeRef} {result : Except InvokeError Value}
    (checked : Checked args start params result) (counted : args.length = start + params.length)
    (accepted : ∀ (offset : Nat) param arg, params[offset]? = some param →
      args[start + offset]? = some arg →
        accepts objects (some param) (arg.runtimeType? objects) arg = true) :
    (Plain result ∧ ∀ index, ¬ NullForString params (args.drop start) index) ∨
      ∃ index, FirstNull params (args.drop start) index ∧
        result = .error (.argumentType (start + index) "String") := by
  induction checked with
  | answered plain => exact .inl ⟨plain, fun index null => by cases null.1⟩
  | @rejected start param error rest complaint =>
    have inside : start < args.length := by rw [counted, List.length_cons]; omega
    have given := List.getElem?_eq_getElem inside
    obtain ⟨rfl, null, rfl⟩ := null_of_complaint given (accepted 0 param _ rfl given) complaint
    refine .inr ⟨0, ⟨⟨rfl, ?_⟩, fun before less => absurd less (Nat.not_lt_zero _)⟩, rfl⟩
    rw [List.getElem?_drop, Nat.add_zero, given, null]
  | @passed start param rest result suits later ih =>
    have first : ¬ NullForString (param :: rest) (args.drop start) 0 := by
      rintro ⟨declared, null⟩
      cases declared
      rw [List.getElem?_drop, Nat.add_zero] at null
      exact suits _ (.noString null nofun)
    have countedBehind : args.length = start + 1 + rest.length := by
      rw [counted, List.length_cons]; omega
    have acceptedBehind : ∀ (offset : Nat) param arg, rest[offset]? = some param →
        args[start + 1 + offset]? = some arg →
          accepts objects (some param) (arg.runtimeType? objects) arg = true := by
      intro offset param arg stands given
      rw [Nat.add_assoc, Nat.add_comm 1] at given
      exact accepted (offset + 1) param arg stands given
    rcases ih countedBehind acceptedBehind with ⟨plain, none⟩ | ⟨index, ⟨here, earlier⟩, failed⟩
    · refine .inl ⟨plain, fun index null => ?_⟩
      cases index with
      | zero => exact first null
      | succ index => exact none index (nullForString_behind.mp null)
    · refine .inr ⟨index + 1, ⟨nullForString_behind.mpr here, fun before less null => ?_⟩, ?_⟩
      · cases before with
        | zero => exact first null
        | succ before =>
          exact earlier before (Nat.lt_of_succ_lt_succ less) (nullForString_behind.mp null)
      · rw [failed, Nat.add_assoc, Nat.add_comm 1]

/-! ## Handles of built-in types -/

/-- Every handle in the table of a built-in value checks its arguments. -/
theorem builtin_checked {objects : Objects} {current : Value} (builtIn : BuiltIn current)
    {info : TypeInfo} (typed : current.typeInfo? objects = some info) {name : String}
    {arity : Nat} {method : Method} (member : method ∈ info.methods name arity)
    (args : List Value) : Checked args 0 method.params (method.invoke current args) := by
  cases current with
  | null | object _ => cases builtIn
  | string text =>
    cases typed
    exact invoke_checked (string_members_careful text) rfl member args
  | array items =>
    cases typed
    cases member
  | list items =>
    cases typed
    exact invoke_checked (list_members_careful objects items) rfl member args
  | map entries =>
    cases typed
    exact invoke_checked (map_members_careful entries) rfl member args
  | boolean _ | byte _ | char _ | short _ | int _ | long _ | float _ | double _ =>
    cases typed
    exact invoke_checked (List.forall_mem_append.mpr
      ⟨shared_members_careful objects _, kind_members_careful rfl⟩) rfl member args

/-! ## Calls -/

theorem FirstNull.unique {params : List TypeRef} {args : List Value} {index other : Nat}
    (first : FirstNull params args index) (firstToo : FirstNull params args other) :
    index = other := by
  rcases Nat.lt_trichotomy index other with less | same | greater
  · exact absurd first.here (firstToo.earlier index less)
  · exact same
  · exact absurd firstToo.here (first.earlier other greater)

section Calls
variable {evaluator : Evaluator} {current : Value} {name : String} {slots : List UInt64}
  {values : List Value} {info : TypeInfo} {method : Method}

/-- The body of the chosen overload answers, or fails for a reason of its own, unless
null was supplied for a string. -/
theorem chosen_result (builtIn : BuiltIn current)
    (chosen : Chosen evaluator current name slots values info method) :
    (Plain (method.invoke current values) ∧ ∀ index, ¬ NullForString method.params values index) ∨
      ∃ index, FirstNull method.params values index ∧
        method.invoke current values = .error (.argumentType index "String") := by
  obtain ⟨before, after, split, -⟩ := chosen.earliest
  have member : method ∈ info.methods name slots.length :=
    split ▸ List.mem_append_right before List.mem_cons_self
  have checked := builtin_checked builtIn chosen.typed member values
  obtain ⟨counted, accepted⟩ := (signatureAccepts_iff _ _ _).mp chosen.accepted
  have result := result_of_checked checked (counted.symm.trans (Nat.zero_add _).symm)
    fun offset param arg stands given => accepted offset param arg stands (Nat.zero_add offset ▸ given)
  simpa only [List.drop_zero, Nat.zero_add] using result

theorem intended (builtIn : BuiltIn current) :
    Intended name slots (evaluator.step current (.method name slots)) := by
  have called : CallResult evaluator current name slots
    (evaluator.step current (.method name slots)) := step_call_iff.mp rfl
  generalize evaluator.step current (.method name slots) = result at called ⊢
  cases called with
  | outOfRange first inside outside => exact .argumentOutOfRange _ _
  | onNull supplied null => exact absurd builtIn (by simp [null, BuiltIn])
  | notFound supplied typed none => exact .methodNotFound _ _
  | invoked chosen =>
    rcases chosen_result builtIn chosen with ⟨plain, -⟩ | ⟨index, -, failed⟩
    · generalize Method.invoke _ current _ = answer at plain
      cases plain with
      | value value => exact .value value
      | failed reason => exact .failed reason
    · rw [failed]
      exact .nullForString index

theorem null_failure_iff (builtIn : BuiltIn current) (index : Nat) :
    evaluator.step current (.method name slots) =
        .error (.invocation (Segment.method name slots).display (.argumentType index "String")) ↔
      ∃ values info method, Chosen evaluator current name slots values info method ∧
        FirstNull method.params values index := by
  constructor
  · intro failed
    have called := step_call_iff.mp failed
    generalize reported : Except.error _ = result at called
    cases called with
    | outOfRange first inside outside => cases reported
    | onNull supplied null => cases reported
    | notFound supplied typed none => cases reported
    | @invoked values info method chosen =>
      rcases chosen_result builtIn chosen with ⟨plain, -⟩ | ⟨other, first, found⟩
      · generalize method.invoke current values = answer at plain reported
        cases plain <;> cases reported
      · rw [found] at reported
        cases reported
        exact ⟨values, info, method, chosen, first⟩
  · rintro ⟨values, info, method, chosen, first⟩
    rw [step_of_callResult (.invoked chosen)]
    rcases chosen_result builtIn chosen with ⟨-, none⟩ | ⟨other, firstToo, failed⟩
    · exact absurd first.here (none index)
    · rw [failed, first.unique firstToo]
      rfl

end Calls

/-- A call on a value of a built-in type gives a value or fails in one of four ways: a
slot has no argument, no overload accepts the arguments, the body states a reason, or
a string is declared where null was supplied. The last one happens exactly if the
overload that is reached has a parameter for which it does, and the first of them is
named; the body never misses its receiver or an argument. -/
theorem builtin_calls_fail_as_intended (evaluator : Evaluator) (current : Value)
    (builtIn : BuiltIn current) (name : String) (slots : List UInt64) :
    Intended name slots (evaluator.step current (.method name slots)) ∧
    (∀ index, evaluator.step current (.method name slots) =
        .error (.invocation (Segment.method name slots).display (.argumentType index "String")) ↔
      ∃ values info method, Chosen evaluator current name slots values info method ∧
        FirstNull method.params values index) ∧
    (∀ call expected, evaluator.step current (.method name slots) ≠
      .error (.invocation call (.receiver expected))) ∧
    ∀ call index, evaluator.step current (.method name slots) ≠
      .error (.invocation call (.missingArgument index)) := by
  have allowed : Intended name slots (evaluator.step current (.method name slots)) :=
    intended builtIn
  refine ⟨allowed, null_failure_iff builtIn, fun call expected failed => ?_,
    fun call index failed => ?_⟩ <;>
  · rw [failed] at allowed
    cases allowed

/-- Null is supplied for the second string of a replacement: the first one is read,
and the second one is reported. -/
theorem null_replacement_is_reported :
    let evaluator : Evaluator := ⟨Objects.empty, [.string "l", .null], 3⟩
    BuiltIn (.string "hello") ∧
      Intended "replace" [0, 1] (evaluator.step (.string "hello") (.method "replace" [0, 1])) ∧
      evaluator.step (.string "hello") (.method "replace" [0, 1]) =
        .error (.invocation "replace(\x7b0\x7d,\x7b1\x7d)" (.argumentType 1 "String")) ∧
      ∃ values info method,
        Chosen evaluator (.string "hello") "replace" [0, 1] values info method ∧
          FirstNull method.params values 1 := by
  intro evaluator
  have failed : evaluator.step (.string "hello") (.method "replace" [0, 1]) =
      .error (.invocation "replace(\x7b0\x7d,\x7b1\x7d)" (.argumentType 1 "String")) := by rfl
  obtain ⟨allowed, null, -⟩ :=
    builtin_calls_fail_as_intended evaluator (.string "hello") trivial "replace" [0, 1]
  exact ⟨trivial, allowed, failed, (null 1).mp failed⟩

end ValuePath.BuiltinCalls
