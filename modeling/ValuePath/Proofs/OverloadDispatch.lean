import Mathlib.Data.List.Forall2
import ValuePath.Lookup.Evaluate

/-! Which method a call reaches. A member table keeps its methods by name and
number of parameters; what it finds under both is the part of the registered
methods that have them, in the order of registration. A call therefore reaches
the method that was registered first among those that accept the arguments. -/
namespace ValuePath.OverloadDispatch

variable {τ : Type}

/-- A method as it is called: the body runs on what the receiver is seen as. -/
def handle (typeName : String) (receiver : Value → Option τ) (name : String)
    (params : List TypeRef) (body : τ → List Value → Except InvokeError Value) : Method :=
  ⟨name, params, fun value args =>
    match receiver value with
    | some this => body this args
    | none => .error (.receiver typeName)⟩

/-- The methods that a log registers, in the order of their registration. -/
def declared (typeName : String) (receiver : Value → Option τ) :
    List (Registration τ) → List Method
  | [] => []
  | .method name params body :: later =>
    handle typeName receiver name params body :: declared typeName receiver later
  | .supertype _ :: later | .field _ _ :: later => declared typeName receiver later

/-- The slots of a call and the arguments that stand in them, in order. -/
def Supplied (args : List Value) : List UInt64 → List Value → Prop :=
  List.Forall₂ fun slot value => args[slot.toNat]? = some value

/-- A method of this name with a parameter for each argument, which accepts it. -/
structure Qualifies (objects : Objects) (name : String) (args : List Value) (method : Method) :
    Prop where
  named : method.name = name
  counted : method.params.length = args.length
  accepted : ∀ (position : Nat) param arg, method.params[position]? = some param →
    args[position]? = some arg → accepts objects (some param) (arg.runtimeType? objects) arg = true

/-- What becomes of a call on a receiver, given the methods of its type in the
order of their declaration. A slot without an argument comes first; then the
earliest method that qualifies decides, whatever its body gives. -/
inductive Dispatched (evaluator : Evaluator) (current : Value) (typeName name : String)
    (slots : List UInt64) (methods : List Method) : Except EvalError Value → Prop where
  | outOfRange (first : slots = before ++ slot :: after)
      (inside : ∀ earlier ∈ before, earlier.toNat < evaluator.args.length)
      (outside : evaluator.args.length ≤ slot.toNat) :
      Dispatched evaluator current typeName name slots methods
        (.error (.argumentOutOfRange slot.toNat evaluator.args.length))
  | invoked (supplied : Supplied evaluator.args slots values)
      (earliest : methods = before ++ method :: after)
      (passed : ∀ earlier ∈ before, ¬ Qualifies evaluator.objects name values earlier)
      (qualifies : Qualifies evaluator.objects name values method) :
      Dispatched evaluator current typeName name slots methods
        ((method.invoke current values).mapError (.invocation (Segment.method name slots).display))
  | notFound (supplied : Supplied evaluator.args slots values)
      (none : ∀ method ∈ methods, ¬ Qualifies evaluator.objects name values method) :
      Dispatched evaluator current typeName name slots methods
        (.error (.methodNotFound typeName name slots.length))

/-! ## The table and the declarations -/

private theorem find_update {κ α : Type} [DecidableEq κ] (key other : κ) (initial : α)
    (change : α → α) (entries : List (κ × α)) :
    Entries.find? key (Entries.update other initial change entries) =
      if other = key then some (change ((Entries.find? key entries).getD initial))
      else Entries.find? key entries := by
  induction entries with
  | nil => rfl
  | cons entry rest ih =>
    obtain ⟨name, held⟩ := entry
    by_cases here : name = other
    · subst here
      by_cases sought : name = key <;> simp [Entries.update, Entries.find?, sought]
    · by_cases sought : name = key
      · have apart : other ≠ key := fun same => here (sought.trans same.symm)
        simp [Entries.update, Entries.find?, sought, apart, Ne.symm apart]
      · simp [Entries.update, Entries.find?, here, sought, ih]

/-- The methods of a name and number of parameters among others. -/
private def bucket (name : String) (arity : Nat) (methods : List Method) : List Method :=
  methods.filter fun method => method.name = name ∧ method.params.length = arity

theorem declared_append (typeName : String) (receiver : Value → Option τ)
    (log later : List (Registration τ)) : declared typeName receiver (log ++ later) =
      declared typeName receiver log ++ declared typeName receiver later := by
  induction log with
  | nil => rfl
  | cons registration rest ih => cases registration <;> simp [declared, ih]

theorem register_name (receiver : Value → Option τ) (info : TypeInfo)
    (registration : Registration τ) : (info.register receiver registration).name = info.name := by
  cases registration <;> rfl

private theorem register_method (receiver : Value → Option τ) (info : TypeInfo) (name : String)
    (params : List TypeRef) (body : τ → List Value → Except InvokeError Value) :
    (info.register receiver (.method name params body)).methodTable =
      Entries.update name [] (Entries.update params.length []
        (· ++ [handle info.name receiver name params body])) info.methodTable := rfl

/-- A registration adds to each bucket what it declares for it, at the end. -/
private theorem register_methods (receiver : Value → Option τ) (info : TypeInfo)
    (registration : Registration τ) (name : String) (arity : Nat) :
    (info.register receiver registration).methods name arity =
      info.methods name arity ++
        bucket name arity (declared info.name receiver [registration]) := by
  cases registration with
  | supertype other => exact (List.append_nil _).symm
  | field other read => exact (List.append_nil _).symm
  | method other params body =>
    simp only [TypeInfo.methods, register_method, find_update, declared, bucket]
    by_cases named : other = name
    · subst named
      cases held : Entries.find? other info.methodTable with
      | none =>
        by_cases counted : params.length = arity <;>
          simp [find_update, Entries.find?, handle, counted]
      | some buckets =>
        by_cases counted : params.length = arity <;> simp [find_update, handle, counted]
    · simp [handle, named]

/-- What a table finds under a name and a number of parameters is declared for
them, in the same order. -/
theorem methods_build (typeName : String) (receiver : Value → Option τ)
    (log : List (Registration τ)) (name : String) (arity : Nat) :
    (TypeInfo.build typeName receiver log).methods name arity =
      bucket name arity (declared typeName receiver log) := by
  have run : ∀ info : TypeInfo, info.name = typeName →
      (log.foldl (TypeInfo.register receiver) info).methods name arity =
        info.methods name arity ++ bucket name arity (declared typeName receiver log) := by
    induction log with
    | nil => exact fun info named => (List.append_nil _).symm
    | cons registration later ih =>
      intro info named
      have next := ih (info.register receiver registration)
        ((register_name receiver info registration).trans named)
      have parts := declared_append typeName receiver [registration] later
      rw [List.singleton_append] at parts
      rw [List.foldl_cons, next, register_methods, named, List.append_assoc, parts]
      simp only [bucket, List.filter_append]
  exact run (TypeInfo.empty typeName) rfl

theorem mem_declared {typeName : String} {receiver : Value → Option τ}
    {log : List (Registration τ)} {method : Method}
    (member : method ∈ declared typeName receiver log) : ∃ name params body,
      .method name params body ∈ log ∧ method = handle typeName receiver name params body := by
  induction log with
  | nil => cases member
  | cons registration later ih =>
    cases registration with
    | method name params body =>
      rcases List.mem_cons.mp member with rfl | inLater
      · exact ⟨name, params, body, List.mem_cons_self, rfl⟩
      · obtain ⟨name, params, body, registered, same⟩ := ih inLater
        exact ⟨name, params, body, List.mem_cons_of_mem _ registered, same⟩
    | supertype other | field other read =>
      obtain ⟨name, params, body, registered, same⟩ := ih member
      exact ⟨name, params, body, List.mem_cons_of_mem _ registered, same⟩

/-- What a table finds was registered. -/
theorem mem_methods_build {typeName name : String} {receiver : Value → Option τ}
    {log : List (Registration τ)} {arity : Nat} {method : Method}
    (member : method ∈ (TypeInfo.build typeName receiver log).methods name arity) :
    method ∈ declared typeName receiver log ∧ method.name = name ∧
      method.params.length = arity := by
  rw [methods_build, bucket, List.mem_filter, decide_eq_true_iff] at member
  exact member

/-! ## Slots -/

/-- Every slot has an argument, or some slot is the first without one. -/
theorem slots_cases (args : List Value) (slots : List UInt64) :
    (∃ values, Supplied args slots values) ∨
      ∃ before slot after, slots = before ++ slot :: after ∧
        (∀ earlier ∈ before, earlier.toNat < args.length) ∧ args.length ≤ slot.toNat := by
  induction slots with
  | nil => exact .inl ⟨[], .nil⟩
  | cons slot rest ih =>
    by_cases inside : slot.toNat < args.length
    · rcases ih with ⟨values, supplied⟩ | ⟨before, missing, after, rfl, before_inside, outside⟩
      · exact .inl ⟨_ :: values, .cons (List.getElem?_eq_getElem inside) supplied⟩
      · refine .inr ⟨slot :: before, missing, after, rfl, ?_, outside⟩
        simpa [inside] using before_inside
    · exact .inr ⟨[], slot, rest, rfl, by simp, Nat.le_of_not_lt inside⟩

theorem resolveArgs_supplied {evaluator : Evaluator} {slots : List UInt64} {values : List Value}
    (supplied : Supplied evaluator.args slots values) :
    evaluator.resolveArgs slots = .ok values := by
  induction supplied with
  | nil => rfl
  | cons here rest ih =>
    simp only [Evaluator.resolveArgs, List.mapM_cons, here] at ih ⊢
    rw [ih]
    rfl

theorem resolveArgs_outside {evaluator : Evaluator} {before after : List UInt64} {slot : UInt64}
    (inside : ∀ earlier ∈ before, earlier.toNat < evaluator.args.length)
    (outside : evaluator.args.length ≤ slot.toNat) :
    evaluator.resolveArgs (before ++ slot :: after) =
      .error (.argumentOutOfRange slot.toNat evaluator.args.length) := by
  have missing : evaluator.args[slot.toNat]? = none := List.getElem?_eq_none outside
  induction before with
  | nil =>
    simp only [Evaluator.resolveArgs, List.nil_append, List.mapM_cons, missing]
    rfl
  | cons first rest ih =>
    have here := List.getElem?_eq_getElem (inside first List.mem_cons_self)
    have later := ih fun earlier member => inside earlier (List.mem_cons_of_mem _ member)
    simp only [Evaluator.resolveArgs, List.cons_append, List.mapM_cons, here] at later ⊢
    rw [later]
    rfl

/-! ## Candidates -/

theorem signatureAccepts_iff (objects : Objects) (params : List TypeRef) (args : List Value) :
    signatureAccepts objects params args = true ↔ params.length = args.length ∧
      ∀ (position : Nat) param arg, params[position]? = some param →
        args[position]? = some arg →
          accepts objects (some param) (arg.runtimeType? objects) arg = true := by
  simp only [signatureAccepts, Bool.and_eq_true, beq_iff_eq, List.all_eq_true]
  refine and_congr_right fun counted => ⟨fun all position param arg stands given => ?_, ?_⟩
  · apply all (param, arg)
    exact List.mem_iff_getElem?.mpr ⟨position, List.getElem?_zip_eq_some.mpr ⟨stands, given⟩⟩
  · rintro each ⟨param, arg⟩ member
    obtain ⟨position, stands⟩ := List.mem_iff_getElem?.mp member
    obtain ⟨stands, given⟩ := List.getElem?_zip_eq_some.mp stands
    exact each position param arg stands given

open Classical in
/-- The candidates of a call are the registered methods that qualify for it, in
the order of their registration. -/
theorem candidates_build (evaluator : Evaluator) (typeName : String)
    (receiver : Value → Option τ) (log : List (Registration τ)) (name : String)
    (args : List Value) :
    evaluator.candidates (TypeInfo.build typeName receiver log) name args =
      (declared typeName receiver log).filter fun method =>
        Qualifies evaluator.objects name args method := by
  rw [Evaluator.candidates, methods_build, bucket, List.filter_filter]
  apply List.filter_congr
  intro method _
  rw [Bool.eq_iff_iff, Bool.and_eq_true, decide_eq_true_iff, decide_eq_true_iff,
    signatureAccepts_iff]
  constructor
  · rintro ⟨⟨-, accepted⟩, named, counted⟩
    exact ⟨named, counted, accepted⟩
  · rintro ⟨named, counted, accepted⟩
    exact ⟨⟨counted, accepted⟩, named, counted⟩

/-! ## Calls -/

section Calls
variable {evaluator : Evaluator} {current : Value} {typeName name : String}
variable {receiver : Value → Option τ} {log : List (Registration τ)} {slots : List UInt64}

private theorem prepareCall_supplied {values : List Value}
    (typed : current.typeInfo? evaluator.objects = some (TypeInfo.build typeName receiver log))
    (supplied : Supplied evaluator.args slots values) :
    evaluator.prepareCall current name slots =
      .ok (TypeInfo.build typeName receiver log, values,
        evaluator.candidates (TypeInfo.build typeName receiver log) name values) := by
  rw [Evaluator.prepareCall, resolveArgs_supplied supplied]
  simp only [typed]

theorem build_name (typeName : String) (receiver : Value → Option τ)
    (log : List (Registration τ)) : (TypeInfo.build typeName receiver log).name = typeName := by
  have run : ∀ info : TypeInfo, (log.foldl (TypeInfo.register receiver) info).name = info.name := by
    induction log with
    | nil => exact fun _ => rfl
    | cons registration later ih =>
      exact fun info => (ih _).trans (register_name receiver info registration)
  exact run (TypeInfo.empty typeName)

/-- Every dispatch is what the call gives. -/
theorem step_of_dispatched {result : Except EvalError Value}
    (typed : current.typeInfo? evaluator.objects = some (TypeInfo.build typeName receiver log))
    (dispatched : Dispatched evaluator current typeName name slots
      (declared typeName receiver log) result) :
    evaluator.step current (.method name slots) = result := by
  classical
  simp only [Evaluator.step, Evaluator.callMethod]
  cases dispatched with
  | outOfRange first inside outside =>
    rw [Evaluator.prepareCall, first, resolveArgs_outside inside outside]
  | @invoked values before method after supplied earliest passed qualifies =>
    have chosen := candidates_build evaluator typeName receiver log name values
    rw [earliest, List.filter_append, List.filter_cons_of_pos (by simpa using qualifies),
      List.filter_eq_nil_iff.mpr (by simpa using passed), List.nil_append] at chosen
    rw [prepareCall_supplied typed supplied, chosen]
  | @notFound values supplied none =>
    have chosen := candidates_build evaluator typeName receiver log name values
    rw [List.filter_eq_nil_iff.mpr (by simpa using none)] at chosen
    simp only [prepareCall_supplied typed supplied, chosen, build_name, supplied.length_eq]

/-- Every call is dispatched. -/
theorem dispatched_exists (evaluator : Evaluator) (current : Value) (typeName name : String)
    (slots : List UInt64) (methods : List Method) :
    ∃ result, Dispatched evaluator current typeName name slots methods result := by
  classical
  rcases slots_cases evaluator.args slots with ⟨values, supplied⟩ |
    ⟨before, slot, after, first, inside, outside⟩
  · cases chosen : methods.filter fun method =>
        decide (Qualifies evaluator.objects name values method) with
    | nil =>
      have none := List.filter_eq_nil_iff.mp chosen
      exact ⟨_, .notFound supplied (by simpa using none)⟩
    | cons method others =>
      obtain ⟨before, after, split, passed, qualifies, -⟩ := List.filter_eq_cons_iff.mp chosen
      exact ⟨_, .invoked supplied split (by simpa using passed) (by simpa using qualifies)⟩
  · exact ⟨_, .outOfRange first inside outside⟩

/-- Where every dispatch is what the call gives, the call gives nothing else. -/
private theorem iff_of_given {methods : List Method} {result : Except EvalError Value}
    (given : ∀ result, Dispatched evaluator current typeName name slots methods result →
      evaluator.step current (.method name slots) = result) :
    evaluator.step current (.method name slots) = result ↔
      Dispatched evaluator current typeName name slots methods result := by
  refine ⟨?_, given result⟩
  rintro rfl
  obtain ⟨result, dispatched⟩ := dispatched_exists evaluator current typeName name slots methods
  rwa [given result dispatched]

/-- A call gives exactly what it is dispatched to. -/
theorem step_iff_dispatched {result : Except EvalError Value}
    (typed : current.typeInfo? evaluator.objects = some (TypeInfo.build typeName receiver log)) :
    evaluator.step current (.method name slots) = result ↔
      Dispatched evaluator current typeName name slots (declared typeName receiver log) result :=
  iff_of_given fun _ => step_of_dispatched typed

theorem supplied_unique {values others : List Value} (supplied : Supplied args slots values)
    (also : Supplied args slots others) : values = others := by
  induction supplied generalizing others with
  | nil => cases also; rfl
  | cons here rest ih =>
    cases also with
    | cons there more => rw [Option.some.inj (here.symm.trans there), ih more]

/-- A call fails for want of a method exactly if no registered method qualifies. -/
theorem notFound_iff {values : List Value}
    (typed : current.typeInfo? evaluator.objects = some (TypeInfo.build typeName receiver log))
    (supplied : Supplied evaluator.args slots values) :
    evaluator.step current (.method name slots) =
        .error (.methodNotFound typeName name slots.length) ↔
      ∀ method ∈ declared typeName receiver log,
        ¬ Qualifies evaluator.objects name values method := by
  constructor
  · intro missing
    generalize failed : (Except.error (.methodNotFound typeName name slots.length) :
      Except EvalError Value) = result at missing
    cases (step_iff_dispatched typed).mp missing with
    | outOfRange => cases failed
    | @invoked values _ method _ _ _ _ _ =>
      cases invoked : method.invoke current values <;>
        simp [invoked, Except.mapError] at failed
    | notFound also none => rwa [supplied_unique supplied also]
  · exact fun none => step_of_dispatched typed (.notFound supplied none)

/-- The earliest of the methods that qualify is the earliest also among more. -/
theorem dispatched_append {methods : List Method} {values : List Value}
    {result : Except EvalError Value} (later : List Method)
    (supplied : Supplied evaluator.args slots values)
    (some_qualifies : ∃ method ∈ methods, Qualifies evaluator.objects name values method)
    (dispatched : Dispatched evaluator current typeName name slots methods result) :
    Dispatched evaluator current typeName name slots (methods ++ later) result := by
  cases dispatched with
  | outOfRange first inside outside => exact .outOfRange first inside outside
  | @invoked values before method after also earliest passed qualifies =>
    have split : methods ++ later = before ++ method :: (after ++ later) := by
      rw [earliest, List.append_assoc, List.cons_append]
    exact .invoked also split passed qualifies
  | notFound also none =>
    obtain ⟨method, member, qualifies⟩ := some_qualifies
    rw [supplied_unique supplied also] at qualifies
    exact absurd qualifies (none method member)

/-- A call gives what it is dispatched to among the first methods, if one of them qualifies. -/
theorem step_iff_dispatched_first {methods later : List Method} {values : List Value}
    {result : Except EvalError Value}
    (typed : current.typeInfo? evaluator.objects = some (TypeInfo.build typeName receiver log))
    (parts : declared typeName receiver log = methods ++ later)
    (supplied : Supplied evaluator.args slots values)
    (some_qualifies : ∃ method ∈ methods, Qualifies evaluator.objects name values method) :
    evaluator.step current (.method name slots) = result ↔
      Dispatched evaluator current typeName name slots methods result := by
  refine iff_of_given fun result dispatched => step_of_dispatched typed ?_
  rw [parts]
  exact dispatched_append later supplied some_qualifies dispatched

end Calls

/-- A type that tells ints from other arguments. -/
def teller : List (Registration ObjectId) :=
  [ .method "tell" [.primitive .int] fun _ _ => .ok (.string "an int")
  , .field "name" fun _ => .string "teller"
  , .method "tell" [.object] fun _ _ => .ok (.string "something") ]

/-- Objects of one type, which is built from a log. -/
def tellers (log : List (Registration ObjectId)) : Objects := fun id =>
  { Objects.empty id with info := TypeInfo.build "Teller" Value.asObject? log }

end ValuePath.OverloadDispatch
