import ValuePath.Proofs.AcceptedArguments
import ValuePath.Proofs.RegistrationLog

/-! What becomes of a call when the registration for the type of its receiver goes on. A method
that is registered later stands behind all that were there, and is never reached in place of one
that qualifies. But parameters are compared with finished types: a supertype that the type of an
argument gains can make a method qualify that stands in front of the one that was reached. -/
namespace ValuePath.LaterRegistrations
open AcceptedArguments OverloadDispatch RegistrationLog

variable {τ : Type}

/-- The objects among some arguments are of types with the same names and the
same supertypes. -/
def SameClasses (args : List Value) (objects others : Objects) : Prop :=
  ∀ id, .object id ∈ args → (others id).info.name = (objects id).info.name ∧
    (others id).info.supertypes = (objects id).info.supertypes

/-- The registration for a type went on behind a log. Among some arguments, the objects whose type
was built from the log are of the type that is built from all of it, and every other object is of
the type it was of. -/
def Continued (typeName : String) (receiver : Value → Option τ)
    (log later : List (Registration τ)) (args : List Value) (objects others : Objects) : Prop :=
  ∀ id, .object id ∈ args → (others id).info = (objects id).info ∨
    (objects id).info = TypeInfo.build typeName receiver log ∧
      (others id).info = TypeInfo.build typeName receiver (log ++ later)

/-- The types of the objects among some arguments keep their names and their supertypes, and may
have gained others. -/
def Widened (args : List Value) (objects others : Objects) : Prop :=
  ∀ id, .object id ∈ args → (others id).info.name = (objects id).info.name ∧
    (objects id).info.supertypes ⊆ (others id).info.supertypes

section
variable {args values : List Value} {objects others : Objects} {slots : List UInt64}
variable {name : String} {method : Method}

theorem widened_of_same (same : SameClasses args objects others) : Widened args objects others :=
  fun id member => ⟨(same id member).1, (same id member).2 ▸ List.Subset.refl _⟩

theorem same_symm (same : SameClasses args objects others) : SameClasses args others objects :=
  fun id member => ⟨(same id member).1.symm, (same id member).2.symm⟩

section
variable {typeName : String} {receiver : Value → Option τ} {log later : List (Registration τ)}

/-- A type that is built on keeps its name, and gains the supertypes that are declared later. -/
theorem classes_of_continued {id : ObjectId}
    (continued : Continued typeName receiver log later args objects others)
    (member : .object id ∈ args) : (others id).info.name = (objects id).info.name ∧
      ((others id).info.supertypes = (objects id).info.supertypes ∨
        (others id).info.supertypes = (objects id).info.supertypes ++ supertypes later) := by
  rcases continued id member with kept | ⟨before, after⟩
  · rw [kept]
    exact ⟨rfl, .inl rfl⟩
  · rw [before, after, build_name, build_name, (represents_build ..).supertypes,
      (represents_build ..).supertypes]
    exact ⟨rfl, .inr List.filterMap_append⟩

theorem widened_of_continued
    (continued : Continued typeName receiver log later args objects others) :
    Widened args objects others := by
  intro id member
  obtain ⟨named, same | more⟩ := classes_of_continued continued member
  · exact ⟨named, same ▸ List.Subset.refl _⟩
  · exact ⟨named, more ▸ List.subset_append_left ..⟩

/-- Fields and methods leave the names and the supertypes of all types as they are. -/
theorem same_of_continued (continued : Continued typeName receiver log later args objects others)
    (members : ∀ name, .supertype name ∉ later) : SameClasses args objects others := by
  have none : supertypes later = [] := by
    refine List.filterMap_eq_nil_iff.mpr fun registration member => ?_
    cases registration with
    | supertype name => exact absurd member (members name)
    | field | method => rfl
  intro id member
  obtain ⟨named, same | more⟩ := classes_of_continued continued member
  · exact ⟨named, same⟩
  · exact ⟨named, by rw [more, none, List.append_nil]⟩

end

/-- An argument goes on fitting every parameter that it fitted. -/
theorem fits_widened {param : TypeRef} {value : Value} (widened : Widened args objects others)
    (member : value ∈ args) (fits : Fits objects param value) : Fits others param value := by
  cases fits with
  | anything => exact .anything value
  | null nullable => exact .null nullable
  | unboxed scalar => exact .unboxed scalar
  | ofType instanceOf =>
    refine .ofType ?_
    cases instanceOf with
    | ownClass id => exact (widened id member).1 ▸ .ownClass id
    | supertype id declared => exact .supertype id ((widened id member).2 declared)
    | object present => exact .object present
    | boxed scalar => exact .boxed scalar
    | string text => exact .string text
    | array items => exact .array items
    | list items => exact .list items
    | map entries => exact .map entries

theorem supplied_mem (supplied : Supplied args slots values) : ∀ value ∈ values, value ∈ args := by
  induction supplied with
  | nil => simp
  | cons here rest ih =>
    intro value member
    rcases List.mem_cons.mp member with rfl | later
    · exact List.mem_of_getElem? here
    · exact ih value later

/-- A method that qualifies goes on to qualify. -/
theorem qualifies_widened (widened : Widened args objects others)
    (supplied : Supplied args slots values) (qualifies : Qualifies objects name values method) :
    Qualifies others name values method := by
  obtain ⟨named, counted, accepted⟩ := qualifies
  refine ⟨named, counted, fun position param arg stands given => ?_⟩
  have member := supplied_mem supplied arg (List.mem_of_getElem? given)
  have fits := accepts_iff.mp (accepted position param arg stands given)
  exact accepts_iff.mpr (fits_widened widened member fits)

/-- A method of one parameter for every type takes what it is given. -/
theorem takes_anything (objects : Objects) (typeName : String) (receiver : Value → Option τ)
    (name : String) (body : τ → List Value → Except InvokeError Value) (value : Value) :
    Qualifies objects name [value] (handle typeName receiver name [.object] body) := by
  refine ⟨rfl, rfl, fun position param arg stands given => ?_⟩
  cases position with
  | zero =>
    cases stands
    exact accepts_iff.mpr (.anything arg)
  | succ position => cases given

theorem qualifies_same (same : SameClasses args objects others)
    (supplied : Supplied args slots values) :
    Qualifies others name values method ↔ Qualifies objects name values method :=
  ⟨qualifies_widened (widened_of_same (same_symm same)) supplied,
    qualifies_widened (widened_of_same same) supplied⟩

end

section
variable {evaluator other : Evaluator} {current : Value} {typeName name : String}
variable {receiver : Value → Option τ} {log later : List (Registration τ)}
variable {slots : List UInt64} {values : List Value}

/-- The same methods are dispatched to with objects whose types have the same
names and supertypes, and with any number of candidates that is worth a warning. -/
theorem dispatched_same {methods : List Method} {result : Except EvalError Value}
    (args : other.args = evaluator.args)
    (same : SameClasses evaluator.args evaluator.objects other.objects)
    (dispatched : Dispatched evaluator current typeName name slots methods result) :
    Dispatched other current typeName name slots methods result := by
  cases dispatched with
  | outOfRange first inside outside =>
    rw [← args] at inside outside ⊢
    exact .outOfRange first inside outside
  | invoked supplied earliest passed qualifies =>
    have agree (method : Method) : Qualifies other.objects name _ method ↔
        Qualifies evaluator.objects name _ method := qualifies_same same supplied
    refine .invoked (args ▸ supplied) earliest ?_ ((agree _).mpr qualifies)
    exact fun earlier member => mt (agree earlier).mp (passed earlier member)
  | notFound supplied none =>
    have agree (method : Method) : Qualifies other.objects name _ method ↔
        Qualifies evaluator.objects name _ method := qualifies_same same supplied
    exact .notFound (args ▸ supplied) fun method member =>
      mt (agree method).mp (none method member)

/-- Once a method qualifies, a longer log changes nothing as long as no argument gains a
supertype. -/
theorem step_same (args : other.args = evaluator.args)
    (typed : current.typeInfo? evaluator.objects = some (TypeInfo.build typeName receiver log))
    (otherTyped : current.typeInfo? other.objects =
      some (TypeInfo.build typeName receiver (log ++ later)))
    (same : SameClasses evaluator.args evaluator.objects other.objects)
    (supplied : Supplied evaluator.args slots values)
    (some_qualifies : ∃ method ∈ declared typeName receiver log,
      Qualifies evaluator.objects name values method) :
    other.step current (.method name slots) = evaluator.step current (.method name slots) := by
  obtain ⟨method, member, qualifies⟩ := some_qualifies
  have still : ∃ method ∈ declared typeName receiver log,
      Qualifies other.objects name values method :=
    ⟨method, member, qualifies_widened (widened_of_same same) supplied qualifies⟩
  have parts := declared_append typeName receiver log later
  rw [step_iff_dispatched_first otherTyped parts (args ▸ supplied) still]
  exact dispatched_same args same ((step_iff_dispatched typed).mp rfl)

/-- Once a method qualifies, a longer log leaves no method to reach that stands behind it. -/
theorem step_until (args : other.args = evaluator.args)
    (otherTyped : current.typeInfo? other.objects =
      some (TypeInfo.build typeName receiver (log ++ later)))
    (widened : Widened evaluator.args evaluator.objects other.objects)
    (supplied : Supplied evaluator.args slots values) {before after : List Method}
    {method : Method} (stands : declared typeName receiver log = before ++ method :: after)
    (qualifies : Qualifies evaluator.objects name values method)
    {result : Except EvalError Value} :
    other.step current (.method name slots) = result ↔
      Dispatched other current typeName name slots (before ++ [method]) result := by
  have parts : declared typeName receiver (log ++ later) =
      (before ++ [method]) ++ (after ++ declared typeName receiver later) := by
    rw [declared_append, stands]
    simp
  have still := qualifies_widened widened supplied qualifies
  exact step_iff_dispatched_first otherTyped parts (args ▸ supplied) ⟨method, by simp, still⟩

end

/-- A call on a receiver whose member table was made by some log of registrations
is dispatched to the methods of the log, in their order. It fails for want of a
method exactly if its slots can be filled and no method of the log qualifies. The
number of candidates that is worth a warning has no influence. Once a method of the
log qualifies, none that stands behind it is reached, whatever is registered after
the log. Fields and methods that are registered then change nothing at all, nor does
a supertype that no argument gains; one that an argument of this type gains can make
a method in front qualify, since parameters are compared with finished types. -/
theorem call_follows_declarations (evaluator : Evaluator) (current : Value)
    (typeName : String) (receiver : Value → Option τ) (log : List (Registration τ))
    (typed : current.typeInfo? evaluator.objects = some (TypeInfo.build typeName receiver log))
    (name : String) (slots : List UInt64) :
    (∀ result, evaluator.step current (.method name slots) = result ↔
      Dispatched evaluator current typeName name slots (declared typeName receiver log) result) ∧
    (∀ values, Supplied evaluator.args slots values →
      (evaluator.step current (.method name slots) =
          .error (.methodNotFound typeName name slots.length) ↔
        ∀ method ∈ declared typeName receiver log,
          ¬ Qualifies evaluator.objects name values method)) ∧
    (∀ threshold, { evaluator with ambiguityThreshold := threshold }.step current
      (.method name slots) = evaluator.step current (.method name slots)) ∧
    (∀ earlier later, log = earlier ++ later → ∀ values, Supplied evaluator.args slots values →
      (∃ method ∈ declared typeName receiver earlier,
        Qualifies evaluator.objects name values method) →
      ∀ result, evaluator.step current (.method name slots) = result ↔
        Dispatched evaluator current typeName name slots
          (declared typeName receiver earlier) result) ∧
    ∀ (other : Evaluator) (later : List (Registration τ)), other.args = evaluator.args →
      current.typeInfo? other.objects = some (TypeInfo.build typeName receiver (log ++ later)) →
      ∀ values, Supplied evaluator.args slots values →
        (SameClasses evaluator.args evaluator.objects other.objects →
          (∃ method ∈ declared typeName receiver log,
            Qualifies evaluator.objects name values method) →
          other.step current (.method name slots) =
            evaluator.step current (.method name slots)) ∧
        (Continued typeName receiver log later evaluator.args evaluator.objects other.objects →
          ((∀ supertype, .supertype supertype ∉ later) →
            (∃ method ∈ declared typeName receiver log,
              Qualifies evaluator.objects name values method) →
            other.step current (.method name slots) =
              evaluator.step current (.method name slots)) ∧
          ∀ before method after, declared typeName receiver log = before ++ method :: after →
            Qualifies evaluator.objects name values method →
            ∀ result, other.step current (.method name slots) = result ↔
              Dispatched other current typeName name slots (before ++ [method]) result) := by
  refine ⟨fun result => step_iff_dispatched typed,
    fun values supplied => notFound_iff typed supplied, fun _ => rfl, ?_, ?_⟩
  · rintro earlier later rfl values supplied some_qualifies result
    exact step_iff_dispatched_first typed (declared_append ..) supplied some_qualifies
  · intro other later args otherTyped values supplied
    refine ⟨fun same => step_same args typed otherTyped same supplied, fun continued => ⟨?_, ?_⟩⟩
    · intro members
      exact step_same args typed otherTyped (same_of_continued continued members) supplied
    · intro before method after stands qualifies result
      exact step_until args otherTyped (widened_of_continued continued) supplied stands qualifies

/-- A type that tells objects of its own from other arguments. -/
def fellow : List (Registration ObjectId) :=
  [ .method "tell" [.named "Teller"] fun _ _ => .ok (.string "a teller")
  , .field "kind" fun _ => .string "fellow" ]

theorem later_overload_is_not_called :
    let evaluator : Evaluator := ⟨tellers teller, [.long 4, .object 1], 3⟩
    let other : Evaluator := ⟨tellers (teller ++ fellow), [.long 4, .object 1], 1⟩
    (Value.object 0).typeInfo? evaluator.objects =
        some (TypeInfo.build "Teller" Value.asObject? teller) ∧
      (Value.object 0).typeInfo? other.objects =
        some (TypeInfo.build "Teller" Value.asObject? (teller ++ fellow)) ∧
      Continued "Teller" Value.asObject? teller fellow evaluator.args evaluator.objects
        other.objects ∧
      Supplied evaluator.args [1] [.object 1] ∧
      (∃ method ∈ declared "Teller" Value.asObject? teller,
        Qualifies evaluator.objects "tell" [.object 1] method) ∧
      evaluator.step (.object 0) (.method "tell" [1]) = .ok (.string "something") ∧
      other.step (.object 0) (.method "tell" [1]) = .ok (.string "something") := by
  intro evaluator other
  have typed : (Value.object 0).typeInfo? evaluator.objects =
      some (TypeInfo.build "Teller" Value.asObject? teller) := rfl
  have otherTyped : (Value.object 0).typeInfo? other.objects =
      some (TypeInfo.build "Teller" Value.asObject? (teller ++ fellow)) := rfl
  have continued : Continued "Teller" Value.asObject? teller fellow evaluator.args
      evaluator.objects other.objects := fun _ _ => .inr ⟨rfl, rfl⟩
  have supplied : Supplied evaluator.args [1] [.object 1] := .cons rfl .nil
  have ints : ¬ Qualifies evaluator.objects "tell" [.object 1]
      (handle "Teller" Value.asObject? "tell" [.primitive .int]
        fun _ _ => .ok (.string "an int")) := fun ints =>
    absurd (ints.accepted 0 _ _ rfl rfl) (by decide)
  have dispatched : Dispatched evaluator (.object 0) "Teller" "tell" [1]
      (declared "Teller" Value.asObject? teller) (.ok (.string "something")) :=
    .invoked supplied (List.singleton_append.symm : _ = [_] ++ _ :: []) (by simpa using ints)
      (takes_anything ..)
  have some_qualifies : ∃ method ∈ declared "Teller" Value.asObject? teller,
      Qualifies evaluator.objects "tell" [.object 1] method :=
    ⟨_, List.mem_cons_of_mem _ List.mem_cons_self, takes_anything ..⟩
  have members : ∀ supertype, .supertype supertype ∉ fellow := by simp [fellow]
  obtain ⟨follows, -, -, -, later⟩ := call_follows_declarations evaluator (.object 0) "Teller"
    Value.asObject? teller typed "tell" [1]
  have called := (follows _).mpr dispatched
  have unchanged := ((later other fellow rfl otherTyped _ supplied).2 continued).1 members
    some_qualifies
  exact ⟨typed, otherTyped, continued, supplied, some_qualifies, called, unchanged.trans called⟩

/-- A type that tells shapes from other arguments. -/
def shapeTeller : List (Registration ObjectId) :=
  [ .method "tell" [.named "Shape"] fun _ _ => .ok (.string "a shape")
  , .method "tell" [.object] fun _ _ => .ok (.string "something") ]

/-- A supertype that is declared later makes the first method qualify, which is then called. -/
theorem later_supertype_changes_call :
    let called (log : List (Registration ObjectId)) : Except EvalError Value :=
      Evaluator.step ⟨tellers log, [.object 1], 3⟩ (.object 0) (.method "tell" [0])
    called shapeTeller = .ok (.string "something") ∧
      called (shapeTeller ++ [.supertype "Shape"]) = .ok (.string "a shape") ∧
      ¬ ∀ log later : List (Registration ObjectId),
        (∃ method ∈ declared "Teller" Value.asObject? log,
          Qualifies (tellers log) "tell" [.object 1] method) →
        called (log ++ later) = called log := by
  intro called
  have before : called shapeTeller = .ok (.string "something") := rfl
  have after : called (shapeTeller ++ [.supertype "Shape"]) = .ok (.string "a shape") := rfl
  refine ⟨before, after, fun unchanged => ?_⟩
  have qualifies : ∃ method ∈ declared "Teller" Value.asObject? shapeTeller,
      Qualifies (tellers shapeTeller) "tell" [.object 1] method :=
    ⟨_, List.mem_cons_of_mem _ List.mem_cons_self, takes_anything ..⟩
  have same := unchanged shapeTeller [.supertype "Shape"] qualifies
  rw [before, after] at same
  exact absurd (Value.string.inj (Except.ok.inj same)) (by decide)

end ValuePath.LaterRegistrations
