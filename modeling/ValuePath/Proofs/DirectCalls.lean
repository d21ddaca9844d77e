import ValuePath.Proofs.MemberBodies

/-! Members of built-in types that are called through their handles, past the matcher: any
receiver, and any number of arguments of any types. A handle never does more with them than
report the first thing that is wrong, the receiver before the arguments, and it never looks
behind its own parameters. -/
namespace ValuePath.DirectCalls
open OverloadDispatch MemberBodies

def IsString (value : Value) : Prop := ∃ text, value = .string text

def IsList (value : Value) : Prop := ∃ items, value = .list items

def IsMap (value : Value) : Prop := ∃ entries, value = .map entries

/-- An argument has something wrong with it, and all arguments before it suit. -/
structure FirstComplaint (args : List Value) (params : List TypeRef) (error : InvokeError) :
    Prop where
  complaint : ∃ (index : Nat) (param : TypeRef), params[index]? = some param ∧
    Complaint args index param error ∧
    ∀ (earlier : Nat) (other : TypeRef), earlier < index → params[earlier]? = some other →
      Suits args earlier other

/-- There is an argument for every parameter, of the type that is read. -/
def AllSuit (args : List Value) (params : List TypeRef) : Prop :=
  ∀ (index : Nat) (param : TypeRef), params[index]? = some param → Suits args index param

/-- What a body gives for arguments that nobody checked. -/
inductive Answer (args : List Value) (params : List TypeRef) : Except InvokeError Value → Prop where
  | plain (suit : AllSuit args params) (plain : Plain result) : Answer args params result
  | first (first : FirstComplaint args params error) : Answer args params (.error error)

/-! ## The first complaint -/

section Order
variable {args : List Value} {params : List TypeRef} {result : Except InvokeError Value}
  {start : Nat}

/-- Arguments that are checked from some position on suit from there on, or the first that does
not decides. -/
theorem checked_cases (checked : Checked args start params result) :
    ((∀ (index : Nat) (param : TypeRef), params[index]? = some param →
        Suits args (start + index) param) ∧ Plain result) ∨
      ∃ (error : InvokeError) (index : Nat) (param : TypeRef), result = .error error ∧
        params[index]? = some param ∧ Complaint args (start + index) param error ∧
        ∀ (earlier : Nat) (other : TypeRef), earlier < index → params[earlier]? = some other →
          Suits args (start + earlier) other := by
  induction checked with
  | answered plain => exact .inl ⟨nofun, plain⟩
  | rejected complaint => exact .inr ⟨_, 0, _, rfl, rfl, complaint, nofun⟩
  | @passed start param rest result suits later ih =>
    have shift (index : Nat) : start + 1 + index = start + (index + 1) := by omega
    simp only [shift] at ih
    rcases ih with ⟨suit, plain⟩ | ⟨error, index, found, failed, stands, complaint, before⟩
    · refine .inl ⟨fun index other stands => ?_, plain⟩
      cases index with
      | zero => exact Option.some.inj stands ▸ suits
      | succ index => exact suit index other stands
    · refine .inr ⟨error, index + 1, found, failed, stands, complaint, ?_⟩
      intro earlier other less stands
      cases earlier with
      | zero => exact Option.some.inj stands ▸ suits
      | succ earlier => exact before earlier other (Nat.lt_of_succ_lt_succ less) stands

theorem answer_of_checked (checked : Checked args 0 params result) :
    Answer args params result := by
  have cases := checked_cases checked
  simp only [Nat.zero_add] at cases
  rcases cases with ⟨suit, plain⟩ | ⟨error, index, param, rfl, found⟩
  · exact .plain suit plain
  · exact .first ⟨index, param, found⟩

/-- A body does not complain about its receiver. -/
theorem answer_ne_receiver (answer : Answer args params result) (expected : String) :
    result ≠ .error (.receiver expected) := by
  rintro rfl
  rcases answer with ⟨-, plain⟩ | ⟨index, param, -, complaint, -⟩
  · cases plain
  · cases complaint

end Order

/-! ## Arguments that no parameter stands for -/

/-- The body of a method looks only at the arguments for its parameters. -/
def Frugal {τ : Type} (this : τ) : Registration τ → Prop
  | .method _ params body => ∀ args, body this (args.take params.length) = body this args
  | .supertype _ | .field _ _ => True

section Taking
variable {count index : Nat} (args : List Value) (inside : index < count)
include inside

theorem get_take : Arguments.get (args.take count) index = Arguments.get args index := by
  rw [Arguments.get, Arguments.get, List.getElem?_take_of_lt inside]

theorem int_take : Arguments.int (args.take count) index = Arguments.int args index := by
  rw [Arguments.int, get_take args inside, Arguments.int]

theorem string_take : Arguments.string (args.take count) index = Arguments.string args index := by
  rw [Arguments.string, get_take args inside, Arguments.string]

theorem chars_take :
    StringMembers.chars (args.take count) index = StringMembers.chars args index := by
  rw [StringMembers.chars, string_take args inside, StringMembers.chars]

end Taking

theorem string_members_frugal (text : String) :
    ∀ registration ∈ StringMembers.registrations, Frugal text registration := by
  simp only [StringMembers.registrations, List.forall_mem_cons, List.not_mem_nil, false_implies,
    implies_true, and_true]
  refine ⟨?length, ?isEmpty, ?upper, ?lower, ?trim, ?behind, ?between, ?charAt, ?indexOf,
    ?contains, ?startsWith, ?endsWith, ?concat, ?replace, ?split, ?equals, ?toString⟩ <;> intro args
  case length | isEmpty | upper | lower | trim | toString => rfl
  case behind | between | charAt => simp (disch := decide) only [int_take]
  case indexOf | contains | startsWith | endsWith | concat | replace | split =>
    simp (disch := decide) only [chars_take]
  case equals => simp (disch := decide) only [get_take]

theorem list_members_frugal (objects : Objects) (items : List Value) :
    ∀ registration ∈ ListMembers.registrations objects, Frugal items registration := by
  simp only [ListMembers.registrations, List.forall_mem_cons, List.not_mem_nil, false_implies,
    implies_true, and_true]
  refine ⟨?size, ?isEmpty, ?get, ?contains, ?indexOf, ?toString⟩ <;> intro args
  case size | isEmpty | toString => rfl
  case get => simp (disch := decide) only [int_take]
  case contains | indexOf => simp (disch := decide) only [get_take]

theorem map_members_frugal (entries : List (String × Value)) :
    ∀ registration ∈ MapMembers.registrations, Frugal entries registration := by
  simp only [MapMembers.registrations, List.forall_mem_cons, List.not_mem_nil, false_implies,
    implies_true, and_true]
  refine ⟨?size, ?isEmpty, ?get, ?containsKey, ?keySet, ?values⟩ <;> intro args
  case size | isEmpty | keySet | values => rfl
  case get | containsKey => simp (disch := decide) only [get_take]

/-! ## Members of scalars -/

/-- A conversion with this name applies to the scalars of these kinds, and fails on all other
values with the name of what it expected. -/
inductive Conversion : String → (Kind → Prop) → String → Prop where
  | int : Conversion "intValue" (Kind.isNumeric · = true) "Number"
  | long : Conversion "longValue" (Kind.isNumeric · = true) "Number"
  | double : Conversion "doubleValue" (Kind.isNumeric · = true) "Number"
  | boolean : Conversion "booleanValue" (· = .boolean) "Boolean"
  | char : Conversion "charValue" (· = .char) "Character"

/-- The value is a scalar of one of these kinds. -/
def Among (kinds : Kind → Prop) (value : Value) : Prop :=
  ∃ kind, value.kind? = some kind ∧ kinds kind

/-- What a member of scalars answers on any value. -/
inductive ScalarAnswer (value : Value) (args : List Value) :
    String → Except InvokeError Value → Prop where
  | text (text : String) : ScalarAnswer value args "toString" (.ok (.string text))
  | compared (given : args ≠ []) (same : Bool) :
      ScalarAnswer value args "equals" (.ok (.boolean same))
  | alone (none : args = []) : ScalarAnswer value args "equals" (.error (.missingArgument 0))
  | converted (conversion : Conversion name kinds expected) (applies : Among kinds value)
      (result : Value) : ScalarAnswer value args name (.ok result)
  | refused (conversion : Conversion name kinds expected) (other : ¬ Among kinds value) :
      ScalarAnswer value args name (.error (.receiver expected))

/-- A member of scalars answers on this receiver, whatever it is and whatever the arguments are. -/
def Answers (value : Value) : Registration Value → Prop
  | .method name _ body => ∀ args, ScalarAnswer value args name (body value args)
  | .supertype _ | .field _ _ => True

theorem required_answer {value : Value} {args : List Value} {name expected : String}
    {kinds : Kind → Prop} {converted : Option Value} (conversion : Conversion name kinds expected)
    (applies : converted.isSome ↔ Among kinds value) :
    ScalarAnswer value args name (ScalarMembers.required expected converted) := by
  cases converted with
  | some result => exact .converted conversion (applies.mp rfl) result
  | none => exact .refused conversion fun among => nomatch applies.mpr among

theorem widens_iff (value : Value) :
    value.asBinary64?.isSome ↔ Among (Kind.isNumeric · = true) value := by
  cases value <;> simp [Among, Value.kind?, Kind.isNumeric, Value.asBinary64?, Value.asInt64?]

theorem truncates_iff (value : Value) :
    value.truncated?.isSome ↔ Among (Kind.isNumeric · = true) value := by
  rw [← widens_iff]
  cases value <;> rfl

theorem truth_iff (value : Value) : value.asBool?.isSome ↔ Among (· = .boolean) value := by
  cases value <;> simp [Among, Value.kind?, Value.asBool?]

theorem character_iff (value : Value) : value.asChar?.isSome ↔ Among (· = .char) value := by
  cases value <;> simp [Among, Value.kind?, Value.asChar?]

theorem shared_members_answer (objects : Objects) (value : Value) :
    ∀ registration ∈ ScalarMembers.sharedRegistrations objects, Answers value registration := by
  simp only [ScalarMembers.sharedRegistrations, List.forall_mem_cons, List.not_mem_nil,
    false_implies, implies_true, and_true]
  refine ⟨?toString, ?equals⟩ <;> intro args
  case toString => exact .text _
  case equals =>
    cases args with
    | nil => exact .alone rfl
    | cons other rest => exact .compared (List.cons_ne_nil other rest) _

theorem kind_members_answer (kind : Kind) (value : Value) :
    ∀ registration ∈ ScalarMembers.kindRegistrations kind, Answers value registration := by
  have numeric :
      ∀ registration ∈ ScalarMembers.numericRegistrations, Answers value registration := by
    simp only [ScalarMembers.numericRegistrations, List.forall_mem_cons, List.not_mem_nil,
      false_implies, implies_true, and_true]
    refine ⟨?int, ?long, ?double⟩ <;> intro args
    case int => exact required_answer .int (Option.isSome_map.symm ▸ truncates_iff value)
    case long => exact required_answer .long (Option.isSome_map.symm ▸ truncates_iff value)
    case double => exact required_answer .double (Option.isSome_map.symm ▸ widens_iff value)
  cases kind with
  | boolean =>
    exact List.forall_mem_singleton.mpr fun args =>
      required_answer .boolean (Option.isSome_map.symm ▸ truth_iff value)
  | char =>
    exact List.forall_mem_singleton.mpr fun args =>
      required_answer .char (Option.isSome_map.symm ▸ character_iff value)
  | _ => exact numeric

theorem scalar_members_frugal (objects : Objects) (kind : Kind) (value : Value) :
    ∀ registration ∈ ScalarMembers.sharedRegistrations objects ++
      ScalarMembers.kindRegistrations kind, Frugal value registration := by
  simp only [List.forall_mem_append, ScalarMembers.sharedRegistrations, List.forall_mem_cons,
    List.not_mem_nil, false_implies, implies_true, and_true]
  refine ⟨⟨fun args => rfl, fun args => ?_⟩, ?_⟩
  · simp (disch := decide) only [get_take]
  · -- no conversion has parameters
    cases kind <;>
      simp only [ScalarMembers.kindRegistrations, ScalarMembers.numericRegistrations,
        List.forall_mem_cons, List.not_mem_nil, false_implies, implies_true, and_true] <;>
      simp only [Frugal, implies_true, and_true]

/-! ## Handles -/

section Handles
variable {τ : Type} {typeName name : String} {receiver : Value → Option τ}
  {log : List (Registration τ)} {arity : Nat} {method : Method}

theorem handle_of_member
    (member : method ∈ (TypeInfo.build typeName receiver log).methods name arity) :
    ∃ params body, .method name params body ∈ log ∧ params.length = arity ∧
      method = handle typeName receiver name params body := by
  obtain ⟨declared, named, counted⟩ := mem_methods_build member
  obtain ⟨other, params, body, registered, rfl⟩ := mem_declared declared
  cases named
  exact ⟨params, body, registered, counted, rfl⟩

/-- A handle whose receiver is not of its type says so, before it looks at the arguments. -/
theorem invoke_outside {params : List TypeRef} {body : τ → List Value → Except InvokeError Value}
    {current : Value} (outside : receiver current = none) (args : List Value) :
    (handle typeName receiver name params body).invoke current args =
      .error (.receiver typeName) := by
  simp only [handle, outside]

theorem invoke_inside {params : List TypeRef} {body : τ → List Value → Except InvokeError Value}
    {current : Value} {this : τ} (inside : receiver current = some this) (args : List Value) :
    (handle typeName receiver name params body).invoke current args = body this args := by
  simp only [handle, inside]

/-- What holds of a handle of a table for one sort of values, whatever it is invoked on. -/
structure Guarded (typeName : String) (OfType : Value → Prop) (arity : Nat) (method : Method)
    (current : Value) (args : List Value) : Prop where
  counted : method.params.length = arity
  refuses : method.invoke current args = .error (.receiver typeName) ↔ ¬ OfType current
  answers : OfType current → Answer args method.params (method.invoke current args)
  frugal : method.invoke current (args.take arity) = method.invoke current args

theorem guarded_of_member {OfType : Value → Prop}
    (careful : ∀ this, ∀ registration ∈ log, Careful this registration)
    (frugal : ∀ this, ∀ registration ∈ log, Frugal this registration)
    (sees : ∀ value, (receiver value).isSome ↔ OfType value)
    (member : method ∈ (TypeInfo.build typeName receiver log).methods name arity)
    (current : Value) (args : List Value) : Guarded typeName OfType arity method current args := by
  obtain ⟨params, body, registered, counted, rfl⟩ := handle_of_member member
  cases seen : receiver current with
  | none =>
    have outside : ¬ OfType current := by
      rw [← sees, seen]
      exact Bool.false_ne_true
    exact ⟨counted, iff_of_true (invoke_outside seen args) outside,
      fun inside => (outside inside).elim, by simp only [invoke_outside seen]⟩
  | some this =>
    have inside : OfType current := (sees current).mp (by rw [seen]; rfl)
    have answer : Answer args params
        ((handle typeName receiver name params body).invoke current args) :=
      answer_of_checked (invoke_checked (careful this) seen member args)
    refine ⟨counted, iff_of_false (answer_ne_receiver answer _) (not_not_intro inside),
      fun _ => answer, ?_⟩
    rw [invoke_inside seen, invoke_inside seen, ← counted]
    exact frugal this _ registered args

end Handles

/-! ## Receivers -/

theorem string_sees (value : Value) : (StringMembers.receiver value).isSome ↔ IsString value := by
  cases value <;> simp [StringMembers.receiver, Value.asString?, IsString]

theorem list_sees (value : Value) : (ListMembers.receiver value).isSome ↔ IsList value := by
  cases value <;> simp [ListMembers.receiver, IsList]

theorem map_sees (value : Value) : value.asEntries?.isSome ↔ IsMap value := by
  cases value <;> simp [Value.asEntries?, IsMap]

/-- The handles of strings, lists and maps report the receiver, or else the first argument that is
missing or of another type than is read, or else give a value or a failure of their own. Those of
scalars take every receiver; only conversions fail, and only on scalars of other kinds and values
that are none. Arguments beyond the parameters change nothing. -/
theorem direct_calls_are_safe (objects : Objects) (name : String) (arity : Nat) (method : Method)
    (current : Value) (args : List Value) :
    (method ∈ StringMembers.table.methods name arity →
      Guarded "String" IsString arity method current args) ∧
    (method ∈ (ListMembers.table objects).methods name arity →
      Guarded "List" IsList arity method current args) ∧
    (method ∈ MapMembers.table.methods name arity → Guarded "Map" IsMap arity method current args) ∧
    ∀ kind, method ∈ (ScalarMembers.table objects kind).methods name arity →
      ScalarAnswer current args name (method.invoke current args) ∧
      method.invoke current (args.take arity) = method.invoke current args := by
  refine ⟨fun member => ?string, fun member => ?list, fun member => ?map,
    fun kind member => ?scalar⟩
  case string =>
    exact guarded_of_member string_members_careful string_members_frugal string_sees member
      current args
  case list =>
    exact guarded_of_member (list_members_careful objects) (list_members_frugal objects) list_sees
      member current args
  case map =>
    exact guarded_of_member map_members_careful map_members_frugal map_sees member current args
  case scalar =>
    obtain ⟨params, body, registered, rfl, rfl⟩ := handle_of_member member
    rw [invoke_inside rfl, invoke_inside rfl]
    refine ⟨?_, scalar_members_frugal objects kind current _ registered args⟩
    rcases List.mem_append.mp registered with shared | ofKind
    · exact shared_members_answer objects current _ shared args
    · exact kind_members_answer kind current _ ofKind args

/-- A handle of strings that is given no string at all, and then a long, an int and one more
argument; and a handle of scalars on an int with one argument too many, and on a string. -/
theorem direct_calls_are_safe_substring :
    (∃ method ∈ StringMembers.table.methods "substring" 2,
      method.invoke .null [] = .error (.receiver "String") ∧
      method.invoke (.string "abc") [.long 1, .int 2, .null] = .error (.argumentType 0 "int")) ∧
    ∃ method ∈ (ScalarMembers.table .empty .int).methods "intValue" 0,
      method.invoke (.int 5) [.null] = .ok (.int 5) ∧
      method.invoke (.string "abc") [] = .error (.receiver "Number") := by
  have ofStrings := List.mem_singleton_self (handle "String" StringMembers.receiver "substring"
    [.primitive .int, .primitive .int] fun text args => do
      let first ← Arguments.int args 0
      let last ← Arguments.int args 1
      StringMembers.charRange text first last)
  have ofScalars := List.mem_singleton_self (handle "Integer" some "intValue" [] fun value _ =>
    ScalarMembers.required "Number" (value.truncated?.map fun n => .int n.toInt32))
  have guarded (current : Value) (args : List Value) :=
    (direct_calls_are_safe .empty "substring" 2 _ current args).1 ofStrings
  have answered (current : Value) (args : List Value) :=
    (direct_calls_are_safe .empty "intValue" 0 _ current args).2.2.2 .int ofScalars
  refine ⟨⟨_, ofStrings, (guarded .null []).refuses.mpr (by rintro ⟨text, ⟨⟩⟩),
    (guarded (.string "abc") [.long 1, .int 2, .null]).frugal.symm.trans rfl⟩,
    _, ofScalars, (answered (.int 5) [.null]).2.symm.trans rfl, ?_⟩
  have refused := (answered (.string "abc") []).1
  generalize named : "intValue" = name, Method.invoke _ _ _ = result at refused
  cases refused with
  | converted conversion applies => obtain ⟨kind, ⟨⟩, -⟩ := applies
  | refused conversion other =>
    cases conversion with
    | int | long | double => rfl
    | boolean | char => exact absurd named (by decide)
  | text | alone | compared => exact absurd named (by decide)

end ValuePath.DirectCalls
