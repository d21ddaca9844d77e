import ValuePath.Proofs.OverloadDispatch

/-! Which arguments a signature accepts, and what its body can rely on. The rules of the
matcher come down to one relation between a declared type and a value; a body that reads an
argument as the declared type finds it there, unless null was supplied. -/
namespace ValuePath.AcceptedArguments
open OverloadDispatch

/-- The value is of this type: of its own one, of a supertype that its class declares, or of the
type of every value. -/
inductive InstanceOf (objects : Objects) : TypeRef → Value → Prop where
  | object (present : value ≠ .null) : InstanceOf objects .object value
  | boxed (scalar : value.kind? = some kind) : InstanceOf objects (.boxed kind) value
  | string (text : String) : InstanceOf objects .string (.string text)
  | array (items : List Value) : InstanceOf objects .array (.array items)
  | list (items : List Value) : InstanceOf objects .list (.list items)
  | map (entries : List (String × Value)) : InstanceOf objects .map (.map entries)
  | ownClass (reference : ObjectId) :
      InstanceOf objects (.named (objects reference).info.name) (.object reference)
  | supertype (reference : ObjectId) (declared : name ∈ (objects reference).info.supertypes) :
      InstanceOf objects (.named name) (.object reference)

/-- A parameter of this type takes the value. -/
inductive Fits (objects : Objects) : TypeRef → Value → Prop where
  | anything (value : Value) : Fits objects .object value
  | null (nullable : param.isPrimitive = false) : Fits objects param .null
  | ofType (member : InstanceOf objects param value) : Fits objects param value
  | unboxed (scalar : value.kind? = some kind) : Fits objects (.primitive kind) value

section
variable {objects : Objects} {param : TypeRef} {value : Value}

theorem isA_iff {info : TypeInfo} {name : String} :
    info.isA name = true ↔ info.name = name ∨ name ∈ info.supertypes := by
  rw [TypeInfo.isA, Bool.or_eq_true, beq_iff_eq, List.contains_iff_mem]

theorem instance_of_isInstanceOf (member : value.isInstanceOf objects param = true) :
    InstanceOf objects param value := by
  cases value with
  | null => cases param <;> cases member
  | object reference =>
    cases param with
    | object => exact .object nofun
    | named name =>
      rcases isA_iff.mp member with rfl | declared
      · exact .ownClass reference
      · exact .supertype reference declared
    | _ => cases member
  | string text =>
    cases param with
    | object => exact .object nofun
    | string => exact .string text
    | _ => cases member
  | array items =>
    cases param with
    | object => exact .object nofun
    | array => exact .array items
    | _ => cases member
  | list items =>
    cases param with
    | object => exact .object nofun
    | list => exact .list items
    | _ => cases member
  | map entries =>
    cases param with
    | object => exact .object nofun
    | map => exact .map entries
    | _ => cases member
  | _ =>
    cases param with
    | object => exact .object nofun
    | boxed kind => exact .boxed (beq_iff_eq.mp member)
    | _ => cases member

theorem isInstanceOf_of_instance (member : InstanceOf objects param value) :
    value.isInstanceOf objects param = true := by
  cases member with
  | object present =>
    cases value with
    | null => exact absurd rfl present
    | _ => rfl
  | boxed scalar =>
    cases value with
    | boolean | byte | char | short | int | long | float | double =>
      cases scalar
      rfl
    | _ => cases scalar
  | ownClass reference => exact isA_iff.mpr (.inl rfl)
  | supertype reference declared => exact isA_iff.mpr (.inr declared)
  | _ => rfl

theorem runtimeType_none_iff : value.runtimeType? objects = none ↔ value = .null := by
  cases value <;> simp [Value.runtimeType?, Value.kind?]

theorem instance_of_runtimeType {type : TypeRef} (typed : value.runtimeType? objects = some type) :
    InstanceOf objects type value := by
  cases value with
  | null => cases typed
  | string text => cases typed; exact .string text
  | array items => cases typed; exact .array items
  | list items => cases typed; exact .list items
  | map entries => cases typed; exact .map entries
  | object reference => cases typed; exact .ownClass reference
  | _ => cases typed; exact .boxed rfl

theorem kind_of_runtimeType {type : TypeRef} (typed : value.runtimeType? objects = some type) :
    type.kind? = value.kind? := by
  cases value with
  | null => cases typed
  | _ => cases typed; rfl

/-- Null fits wherever no unboxed scalar is declared. -/
theorem accepts_null_iff :
    accepts objects (some param) none .null = true ↔ Fits objects param .null := by
  cases param with
  | primitive kind =>
    refine ⟨nofun, fun fits => ?_⟩
    cases fits with
    | null nullable => cases nullable
    | ofType member => cases member
    | unboxed scalar => cases scalar
  | _ => exact ⟨fun _ => .null rfl, fun _ => rfl⟩

/-- For a value that is present, the first rule does not apply. -/
theorem accepts_present {type : TypeRef} (present : value ≠ .null) :
    accepts objects (some param) (some type) value =
      (param == .object || value.isInstanceOf objects param ||
        match param.kind? with
        | some kind => type.kind? == some kind
        | none => param == type) := by
  have visible : value.isNull = false := by
    cases value with
    | null => exact absurd rfl present
    | _ => rfl
  simp only [accepts, visible, Option.isNone_some, Bool.or_self, Bool.and_false,
    Bool.false_eq_true, if_false]
  cases param == .object <;> cases value.isInstanceOf objects param <;> rfl

/-- Whatever rule applies first, a parameter accepts exactly what fits its type. -/
theorem accepts_iff :
    accepts objects (some param) (value.runtimeType? objects) value = true ↔
      Fits objects param value := by
  cases typed : value.runtimeType? objects with
  | none =>
    obtain rfl := runtimeType_none_iff.mp typed
    exact accepts_null_iff
  | some type =>
    have present : value ≠ .null := fun null => by
      rw [runtimeType_none_iff.mpr null] at typed
      cases typed
    have kinds : type.kind? = value.kind? := kind_of_runtimeType typed
    rw [accepts_present present, Bool.or_eq_true, Bool.or_eq_true, beq_iff_eq, kinds]
    constructor
    · rintro ((rfl | member) | last)
      · exact .anything value
      · exact .ofType (instance_of_isInstanceOf member)
      · cases param with
        | primitive kind => exact .unboxed (beq_iff_eq.mp last)
        | boxed kind => exact .ofType (.boxed (beq_iff_eq.mp last))
        | _ =>
          obtain rfl := beq_iff_eq.mp last
          exact .ofType (instance_of_runtimeType typed)
    · intro fits
      cases fits with
      | anything => exact .inl (.inl rfl)
      | null => exact absurd rfl present
      | ofType member => exact .inl (.inr (isInstanceOf_of_instance member))
      | unboxed scalar => exact .inr (beq_iff_eq.mpr scalar)

/-! ## What a body reads -/

/-- An unboxed scalar is of the declared kind. -/
theorem scalar_of_fits {kind : Kind} (fits : Fits objects (.primitive kind) value) :
    value.kind? = some kind := by
  cases fits with
  | null nullable => cases nullable
  | ofType member => cases member
  | unboxed scalar => exact scalar

/-- A boxed scalar is of the declared kind, unless it is null. -/
theorem boxed_of_fits {kind : Kind} (fits : Fits objects (.boxed kind) value) :
    value = .null ∨ value.kind? = some kind := by
  cases fits with
  | null => exact .inl rfl
  | ofType member =>
    cases member with
    | boxed scalar => exact .inr scalar

theorem string_of_fits (fits : Fits objects .string value) :
    value = .null ∨ ∃ text, value = .string text := by
  cases fits with
  | null => exact .inl rfl
  | ofType member =>
    cases member with
    | string text => exact .inr ⟨text, rfl⟩

theorem int_of_kind (scalar : value.kind? = some .int) : ∃ n, value = .int n := by
  cases value with
  | int n => exact ⟨n, rfl⟩
  | _ => cases scalar

theorem long_of_kind (scalar : value.kind? = some .long) : ∃ n, value = .long n := by
  cases value with
  | long n => exact ⟨n, rfl⟩
  | _ => cases scalar

/-- No scalar fits a scalar type of another kind. -/
theorem kind_of_fits {kind declared : Kind} (fits : Fits objects param value)
    (scalar : value.kind? = some kind) (typed : param.kind? = some declared) : declared = kind := by
  cases param with
  | primitive other =>
    cases typed
    exact Option.some.inj ((scalar_of_fits fits).symm.trans scalar)
  | boxed other =>
    cases typed
    rcases boxed_of_fits fits with rfl | same
    · cases scalar
    · exact Option.some.inj (same.symm.trans scalar)
  | _ => cases typed

end

section
variable {args : List Value} {index : Nat} {value : Value}

theorem int_ok_iff (given : args[index]? = some value) {n : Int32} :
    Arguments.int args index = .ok n ↔ value = .int n := by
  rw [Arguments.int, Arguments.get, given]
  cases value <;> simp

theorem long_ok_iff (given : args[index]? = some value) {n : Int64} :
    Arguments.long args index = .ok n ↔ value = .long n := by
  rw [Arguments.long, Arguments.get, given]
  cases value <;> simp

theorem string_ok_iff (given : args[index]? = some value) {text : String} :
    Arguments.string args index = .ok text ↔ value = .string text := by
  rw [Arguments.string, Arguments.get, given]
  cases value <;> simp

end

/-- What a body can rely on at a position where an argument was accepted. -/
structure Readable (param : TypeRef) (args : List Value) (index : Nat) (value : Value) : Prop where
  int : param = .primitive .int → ∃ n, value = .int n ∧ Arguments.int args index = .ok n
  long : param = .primitive .long → ∃ n, value = .long n ∧ Arguments.long args index = .ok n
  boxedInt : param = .boxed .int → ((∃ n, Arguments.int args index = .ok n) ↔ value ≠ .null)
  boxedLong : param = .boxed .long → ((∃ n, Arguments.long args index = .ok n) ↔ value ≠ .null)
  string : param = .string → ((∃ text, Arguments.string args index = .ok text) ↔ value ≠ .null)
  kind : ∀ kind declared, value.kind? = some kind → param.kind? = some declared → declared = kind

theorem readable_of_fits {objects : Objects} {param : TypeRef} {args : List Value} {index : Nat}
    {value : Value} (given : args[index]? = some value) (fits : Fits objects param value) :
    Readable param args index value where
  int declared := by
    subst declared
    obtain ⟨n, rfl⟩ := int_of_kind (scalar_of_fits fits)
    exact ⟨n, rfl, (int_ok_iff given).mpr rfl⟩
  long declared := by
    subst declared
    obtain ⟨n, rfl⟩ := long_of_kind (scalar_of_fits fits)
    exact ⟨n, rfl, (long_ok_iff given).mpr rfl⟩
  boxedInt declared := by
    subst declared
    simp only [int_ok_iff given]
    rcases boxed_of_fits fits with rfl | scalar
    · simp
    · obtain ⟨n, rfl⟩ := int_of_kind scalar
      simp
  boxedLong declared := by
    subst declared
    simp only [long_ok_iff given]
    rcases boxed_of_fits fits with rfl | scalar
    · simp
    · obtain ⟨n, rfl⟩ := long_of_kind scalar
      simp
  string declared := by
    subst declared
    simp only [string_ok_iff given]
    rcases string_of_fits fits with rfl | ⟨text, rfl⟩ <;> simp
  kind _ _ scalar typed := kind_of_fits fits scalar typed

/-- A signature accepts arguments exactly if there is one for each parameter and it fits. Then
every body that reads an argument as the declared int, long or string finds it, where a boxed
type or a string is declared unless null was supplied, and no scalar stands where one of another
kind is declared. -/
theorem signatures_are_sound (objects : Objects) (params : List TypeRef) (args : List Value) :
    (signatureAccepts objects params args = true ↔ params.length = args.length ∧
      ∀ (index : Nat) param value, params[index]? = some param → args[index]? = some value →
        Fits objects param value) ∧
    (signatureAccepts objects params args = true →
      ∀ (index : Nat) param value, params[index]? = some param → args[index]? = some value →
        Readable param args index value) := by
  have fitting : signatureAccepts objects params args = true ↔ params.length = args.length ∧
      ∀ (index : Nat) param value, params[index]? = some param → args[index]? = some value →
        Fits objects param value := by
    simp only [signatureAccepts_iff, accepts_iff]
  refine ⟨fitting, fun accepted index param value stands given => ?_⟩
  exact readable_of_fits given ((fitting.mp accepted).2 index param value stands given)

/-- A type that declares a supertype. -/
def circles : Objects := fun id =>
  { Objects.empty id with info := ⟨"Circle", ["Shape"], [], []⟩ }

/-- Parameters of four sorts: an int, a long and a text that may be null, and an object. -/
theorem circle_signature_is_sound :
    let params : List TypeRef := [.primitive .int, .boxed .long, .string, .named "Shape"]
    let args : List Value := [.int 4, .null, .string "red", .object 0]
    signatureAccepts circles params args = true ∧ Fits circles (.named "Shape") (.object 0) ∧
      Readable (.primitive .int) args 0 (.int 4) ∧ Readable (.boxed .long) args 1 .null ∧
      Readable .string args 2 (.string "red") := by
  intro params args
  have accepted : signatureAccepts circles params args = true := by decide
  obtain ⟨fitting, readable⟩ := signatures_are_sound circles params args
  exact ⟨accepted, (fitting.mp accepted).2 3 _ _ rfl rfl, readable accepted 0 _ _ rfl rfl,
    readable accepted 1 _ _ rfl rfl, readable accepted 2 _ _ rfl rfl⟩

end ValuePath.AcceptedArguments
