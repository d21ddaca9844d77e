import ValuePath.Proofs.CallSteps

/-! What a call of a method answers whose arguments stand in the slots in order. Where
one overload has the name and the number of parameters, and accepts the arguments, the
call answers what the body of this overload gives for its receiver. -/
namespace ValuePath.MemberCalls
open OverloadDispatch CallSteps

/-- The slots of the first arguments, in order. -/
def firstSlots (count : Nat) : List UInt64 := (List.range count).map UInt64.ofNat

/-- What a method of a value answers, called with these arguments. -/
def call (objects : Objects) (current : Value) (name : String) (args : List Value) :
    Except EvalError Value :=
  (Evaluator.mk objects args Evaluator.defaultThreshold).step current
    (.method name (firstSlots args.length))

theorem supplied_first (args : List Value) (few : args.length ≤ UInt64.size) :
    Supplied args (firstSlots args.length) args := by
  refine List.forall₂_iff_get.mpr ⟨by simp [firstSlots], fun position inside within => ?_⟩
  have small : position < UInt64.size := Nat.lt_of_lt_of_le within few
  have slot : ((firstSlots args.length).get ⟨position, inside⟩).toNat = position := by
    simp [firstSlots, Nat.mod_eq_of_lt small]
  rw [slot]
  exact List.getElem?_eq_getElem within

/-- A failure in the body is reported as one of the call. -/
theorem mapError_ok_iff {ε δ α : Type} {result : Except ε α} {wrap : ε → δ} {value : α} :
    result.mapError wrap = .ok value ↔ result = .ok value := by
  cases result with
  | error error => exact ⟨nofun, nofun⟩
  | ok found => simp [Except.mapError]

section Body
variable {τ : Type} {objects : Objects} {current result : Value} {typeName name : String}
  {receiver : Value → Option τ} {log : List (Registration τ)} {this : τ}
  {params : List TypeRef} {body : τ → List Value → Except InvokeError Value} {args : List Value}

theorem supplied_call_ok_iff {evaluator : Evaluator} {slots : List UInt64}
    (typed : current.typeInfo? evaluator.objects = some (TypeInfo.build typeName receiver log))
    (seen : receiver current = some this)
    (only : (TypeInfo.build typeName receiver log).methods name slots.length =
      [handle typeName receiver name params body])
    (accepted : signatureAccepts evaluator.objects params args = true)
    (supplied : Supplied evaluator.args slots args) :
    evaluator.step current (.method name slots) = .ok result ↔ body this args = .ok result := by
  have first : accepting evaluator (TypeInfo.build typeName receiver log) name slots args =
      [handle typeName receiver name params body] := by
    rw [accepting, only]
    exact List.filter_cons_of_pos accepted
  have chosen : Chosen evaluator current name slots args
      (TypeInfo.build typeName receiver log) (handle typeName receiver name params body) :=
    chosen_of_accepting supplied typed first
  rw [step_of_callResult (.invoked chosen), mapError_ok_iff]
  simp only [handle, seen]

theorem call_ok_iff
    (typed : current.typeInfo? objects = some (TypeInfo.build typeName receiver log))
    (seen : receiver current = some this)
    (only : (TypeInfo.build typeName receiver log).methods name args.length =
      [handle typeName receiver name params body])
    (accepted : signatureAccepts objects params args = true)
    (few : args.length ≤ UInt64.size) :
    call objects current name args = .ok result ↔ body this args = .ok result := by
  have counted : (firstSlots args.length).length = args.length := by simp [firstSlots]
  exact supplied_call_ok_iff typed seen (counted.symm ▸ only) accepted (supplied_first args few)

end Body

/-! ## Counts and positions -/

/-- The greatest count, and the greatest position, that an int can name: 2^31 - 1. -/
def greatestInt : Int := 2147483647

theorem toInt_le_greatest (n : Int32) : n.toInt ≤ greatestInt := Int.le_sub_one_of_lt n.toInt_lt

theorem intOfCount_ok {count : Nat} (fits : (count : Int) ≤ greatestInt) :
    ∃ n : Int32, intOfCount count = .ok (.int n) ∧ n.toInt = count := by
  have power : Nat.pow 2 31 = 2 ^ 31 := rfl
  have small : count < 2 ^ 31 := by rw [greatestInt] at fits; omega
  exact ⟨Int32.ofNat count, if_pos (power ▸ small), Int32.toInt_ofNat_of_lt small⟩

theorem positional_iff {α : Type} {items : List α} {position : Int32} {item : α} :
    (if position < 0 then none else items[position.toInt.toNat]?) = some item ↔
      0 ≤ position.toInt ∧ items[position.toInt.toNat]? = some item := by
  rw [Option.ite_none_left_eq_some, Int32.lt_iff_toInt_lt, Int32.toInt_zero, Int.not_lt]

/-! ## Strings, lists and maps -/

section Tables
variable {objects : Objects} {result : Value} {name : String} {params : List TypeRef}
  {args : List Value} {given : Except InvokeError Value}

theorem string_call_ok_iff {text : String} {body : String → List Value → Except InvokeError Value}
    (only : StringMembers.table.methods name args.length =
      [handle "String" StringMembers.receiver name params body])
    (accepted : signatureAccepts objects params args = true) (gives : body text args = given)
    (few : args.length ≤ 2) :
    call objects (.string text) name args = .ok result ↔ given = .ok result :=
  gives ▸ call_ok_iff rfl rfl only accepted (Nat.le_trans few (by decide))

theorem list_call_ok_iff {items : List Value}
    {body : List Value → List Value → Except InvokeError Value}
    (only : (ListMembers.table objects).methods name args.length =
      [handle "List" ListMembers.receiver name params body])
    (accepted : signatureAccepts objects params args = true) (gives : body items args = given)
    (few : args.length ≤ 2) :
    call objects (.list items) name args = .ok result ↔ given = .ok result :=
  gives ▸ call_ok_iff rfl rfl only accepted (Nat.le_trans few (by decide))

theorem map_call_ok_iff {entries : List (String × Value)}
    {body : List (String × Value) → List Value → Except InvokeError Value}
    (only : MapMembers.table.methods name args.length =
      [handle "Map" Value.asEntries? name params body])
    (accepted : signatureAccepts objects params args = true) (gives : body entries args = given)
    (few : args.length ≤ 2) :
    call objects (.map entries) name args = .ok result ↔ given = .ok result :=
  gives ▸ call_ok_iff rfl rfl only accepted (Nat.le_trans few (by decide))

end Tables

end ValuePath.MemberCalls
