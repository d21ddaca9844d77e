import ValuePath.Members.Table
import ValuePath.Proofs.OverloadDispatch

/-! How the bodies of the members of built-in types treat their arguments. A body
looks at its arguments in the order of its parameters; the first one that is missing,
or that is not of the type that is read, decides how it fails, and a body whose
arguments all suit gives a value or fails for a reason of its own. -/
namespace ValuePath.MemberBodies
open OverloadDispatch

/-- What is wrong with the argument at a position, where a parameter of some type
stands. Only ints and strings are asked for their type. -/
inductive Complaint (args : List Value) (index : Nat) : TypeRef → InvokeError → Prop where
  | missing (beyond : args.length ≤ index) : Complaint args index param (.missingArgument index)
  | noInt (given : args[index]? = some value) (other : ∀ n, value ≠ .int n) :
      Complaint args index (.primitive .int) (.argumentType index "int")
  | noString (given : args[index]? = some value) (other : ∀ text, value ≠ .string text) :
      Complaint args index .string (.argumentType index "String")

/-- Nothing is wrong with the argument at a position. -/
def Suits (args : List Value) (index : Nat) (param : TypeRef) : Prop :=
  ∀ error, ¬ Complaint args index param error

/-- A value, or a failure for a reason that the body states. -/
inductive Plain : Except InvokeError Value → Prop where
  | value (value : Value) : Plain (.ok value)
  | failed (reason : String) : Plain (.error (.failed reason))

/-- A result that comes from looking at the arguments for these parameters in order,
the first parameter at the given position. -/
inductive Checked (args : List Value) : Nat → List TypeRef → Except InvokeError Value → Prop where
  | answered (plain : Plain result) : Checked args index [] result
  | rejected (complaint : Complaint args index param error) :
      Checked args index (param :: rest) (.error error)
  | passed (suits : Suits args index param)
      (later : Checked args (index + 1) rest result) : Checked args index (param :: rest) result

/-- The body of a method checks its arguments on this receiver, whatever they are. -/
def Careful {τ : Type} (this : τ) : Registration τ → Prop
  | .method _ params body => ∀ args, Checked args 0 params (body this args)
  | .supertype _ | .field _ _ => True

/-! ## Reading arguments -/

section Reading
variable {args : List Value} {index : Nat} {rest : List TypeRef}

theorem suits_int (given : args[index]? = some (.int n)) : Suits args index (.primitive .int) := by
  rintro error (beyond | ⟨found, other⟩)
  · cases given.symm.trans (List.getElem?_eq_none beyond)
  · exact other n (Option.some.inj (found.symm.trans given))

theorem suits_string (given : args[index]? = some (.string text)) : Suits args index .string := by
  rintro error (beyond | _ | ⟨found, other⟩)
  · cases given.symm.trans (List.getElem?_eq_none beyond)
  · exact other text (Option.some.inj (found.symm.trans given))

theorem suits_object (given : args[index]? = some value) : Suits args index .object := by
  rintro error ⟨beyond⟩
  cases given.symm.trans (List.getElem?_eq_none beyond)

theorem checked_int {body : Int32 → Except InvokeError Value}
    (later : ∀ n, Checked args (index + 1) rest (body n)) :
    Checked args index (.primitive .int :: rest) (Arguments.int args index >>= body) := by
  rw [Arguments.int, Arguments.get]
  cases given : args[index]? with
  | none => exact .rejected (.missing (List.getElem?_eq_none_iff.mp given))
  | some value =>
    cases value with
    | int n => exact .passed (suits_int given) (later n)
    | _ => exact .rejected (.noInt given nofun)

theorem checked_string {body : String → Except InvokeError Value}
    (later : ∀ text, Checked args (index + 1) rest (body text)) :
    Checked args index (.string :: rest) (Arguments.string args index >>= body) := by
  rw [Arguments.string, Arguments.get]
  cases given : args[index]? with
  | none => exact .rejected (.missing (List.getElem?_eq_none_iff.mp given))
  | some value =>
    cases value with
    | string text => exact .passed (suits_string given) (later text)
    | _ => exact .rejected (.noString given nofun)

theorem checked_object {body : Value → Except InvokeError Value}
    (later : ∀ value, Checked args (index + 1) rest (body value)) :
    Checked args index (.object :: rest) (Arguments.get args index >>= body) := by
  rw [Arguments.get]
  cases given : args[index]? with
  | none => exact .rejected (.missing (List.getElem?_eq_none_iff.mp given))
  | some value => exact .passed (suits_object given) (later value)

/-- A string argument may be read as its characters. -/
theorem checked_chars {body : List Char → Except InvokeError Value}
    (later : ∀ text, Checked args (index + 1) rest (body text)) :
    Checked args index (.string :: rest) (StringMembers.chars args index >>= body) := by
  have read : StringMembers.chars args index >>= body =
      Arguments.string args index >>= fun text => body text.toList := by
    rw [StringMembers.chars]
    cases Arguments.string args index <;> rfl
  rw [read]
  exact checked_string fun text => later text.toList

end Reading

/-! ## Results of bodies -/

theorem intOfCount_plain (count : Nat) : Plain (intOfCount count) := by
  unfold intOfCount
  split
  · exact .value _
  · exact .failed _

theorem charRange_plain (text : String) (first last : Int32) :
    Plain (StringMembers.charRange text first last) := by
  unfold StringMembers.charRange
  dsimp only
  split
  · exact .failed _
  · exact .value _

theorem charAt_plain (text : String) (index : Int32) :
    Plain (StringMembers.charAt text index) := by
  unfold StringMembers.charAt
  split
  · exact .value _
  · exact .failed _

theorem positionIn_plain (text needle : List Char) : Plain (StringMembers.indexOf text needle) := by
  unfold StringMembers.indexOf
  split
  · exact intOfCount_plain _
  · exact .value _

theorem item_plain (items : List Value) (index : Int32) : Plain (ListMembers.item items index) := by
  unfold ListMembers.item
  split
  · exact .value _
  · exact .failed _

theorem positionOf_plain (items : List Value) (needle : Value) :
    Plain (ListMembers.indexOf items needle) := by
  unfold ListMembers.indexOf
  split
  · exact intOfCount_plain _
  · exact .value _

/-! ## The tables -/

theorem checked_value {args : List Value} {index : Nat} (value : Value) :
    Checked args index [] (.ok value) := .answered (.value value)

theorem string_members_careful (text : String) :
    ∀ registration ∈ StringMembers.registrations, Careful text registration := by
  simp only [StringMembers.registrations, List.forall_mem_cons, List.not_mem_nil, false_implies,
    implies_true, and_true]
  refine ⟨?length, ?isEmpty, ?upper, ?lower, ?trim, ?behind, ?between, ?charAt, ?indexOf,
    ?contains, ?startsWith, ?endsWith, ?concat, ?replace, ?split, ?equals, ?toString⟩ <;> intro args
  case length => exact .answered (intOfCount_plain _)
  case isEmpty | upper | lower | trim | toString => exact checked_value _
  case behind => exact checked_int fun _ => .answered (charRange_plain _ _ _)
  case between =>
    exact checked_int fun _ => checked_int fun _ => .answered (charRange_plain _ _ _)
  case charAt => exact checked_int fun _ => .answered (charAt_plain _ _)
  case indexOf => exact checked_chars fun _ => .answered (positionIn_plain _ _)
  case contains | startsWith | endsWith | concat | split =>
    exact checked_chars fun _ => checked_value _
  case replace => exact checked_chars fun _ => checked_chars fun _ => checked_value _
  case equals => exact checked_object fun _ => checked_value _

theorem list_members_careful (objects : Objects) (items : List Value) :
    ∀ registration ∈ ListMembers.registrations objects, Careful items registration := by
  simp only [ListMembers.registrations, List.forall_mem_cons, List.not_mem_nil, false_implies,
    implies_true, and_true]
  refine ⟨?size, ?isEmpty, ?get, ?contains, ?indexOf, ?toString⟩ <;> intro args
  case size => exact .answered (intOfCount_plain _)
  case isEmpty | toString => exact checked_value _
  case get => exact checked_int fun _ => .answered (item_plain _ _)
  case contains => exact checked_object fun _ => checked_value _
  case indexOf => exact checked_object fun _ => .answered (positionOf_plain _ _)

theorem map_members_careful (entries : List (String × Value)) :
    ∀ registration ∈ MapMembers.registrations, Careful entries registration := by
  simp only [MapMembers.registrations, List.forall_mem_cons, List.not_mem_nil, false_implies,
    implies_true, and_true]
  refine ⟨?size, ?isEmpty, ?get, ?containsKey, ?keySet, ?values⟩ <;> intro args
  case size => exact .answered (intOfCount_plain _)
  case isEmpty | keySet | values => exact checked_value _
  case get | containsKey => exact checked_object fun _ => checked_value _

/-- A conversion that applies to its receiver gives a value. -/
theorem required_plain {expected : String} {converted : Option Value}
    (applies : converted.isSome) : Plain (ScalarMembers.required expected converted) := by
  obtain ⟨value, rfl⟩ := Option.isSome_iff_exists.mp applies
  exact .value value

theorem shared_members_careful (objects : Objects) (value : Value) :
    ∀ registration ∈ ScalarMembers.sharedRegistrations objects, Careful value registration := by
  simp only [ScalarMembers.sharedRegistrations, List.forall_mem_cons, List.not_mem_nil,
    false_implies, implies_true, and_true]
  refine ⟨?toString, ?equals⟩ <;> intro args
  case toString => exact checked_value _
  case equals => exact checked_object fun _ => checked_value _

theorem numeric_members_careful {value : Value} (truncates : value.truncated?.isSome)
    (widens : value.asBinary64?.isSome) :
    ∀ registration ∈ ScalarMembers.numericRegistrations, Careful value registration := by
  simp only [ScalarMembers.numericRegistrations, List.forall_mem_cons, List.not_mem_nil,
    false_implies, implies_true, and_true]
  refine ⟨?int, ?long, ?double⟩ <;> intro args
  case int | long => exact .answered (required_plain (Option.isSome_map.trans truncates))
  case double => exact .answered (required_plain (Option.isSome_map.trans widens))

/-- Every conversion of a kind applies to the scalars of this kind. -/
theorem kind_members_careful {value : Value} {kind : Kind} (scalar : value.kind? = some kind) :
    ∀ registration ∈ ScalarMembers.kindRegistrations kind, Careful value registration := by
  cases value with
  | boolean b =>
    cases scalar
    exact List.forall_mem_singleton.mpr fun args => .answered (required_plain rfl)
  | char c =>
    cases scalar
    exact List.forall_mem_singleton.mpr fun args => .answered (required_plain rfl)
  | byte _ | short _ | int _ | long _ | float _ | double _ =>
    cases scalar
    exact numeric_members_careful rfl rfl
  | null | string _ | array _ | list _ | map _ | object _ => cases scalar

/-! ## Handles -/

/-- A handle of a table that is invoked on a receiver of the table runs its body. -/
theorem invoke_checked {τ : Type} {typeName name : String} {receiver : Value → Option τ}
    {log : List (Registration τ)} {arity : Nat} {current : Value} {this : τ} {method : Method}
    (careful : ∀ registration ∈ log, Careful this registration)
    (seen : receiver current = some this)
    (member : method ∈ (TypeInfo.build typeName receiver log).methods name arity)
    (args : List Value) : Checked args 0 method.params (method.invoke current args) := by
  obtain ⟨name, params, body, registered, rfl⟩ := mem_declared (mem_methods_build member).1
  have result : (handle typeName receiver name params body).invoke current args =
      body this args := by simp only [handle, seen]
  rw [result]
  exact careful _ registered args

end ValuePath.MemberBodies
