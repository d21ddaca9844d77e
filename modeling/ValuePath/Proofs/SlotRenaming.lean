import ValuePath.Proofs.LookupComposition

/-! A walk reads its arguments only through the slots of its path. If every slot
finds under its new name what it found before, the renamed path leads to the same
value, or it stops at the same segment for the same reason. -/
namespace ValuePath.SlotRenaming

/-- The slots that a segment refers to. -/
def slotsOf : Segment → List UInt64
  | .method _ slots => slots
  | .field _ | .index _ => []

/-- The slots that occur on a path. -/
def pathSlots (path : Path) : List UInt64 := path.segments.flatMap slotsOf

/-- The segment with every slot under its new name. -/
def renamedSegment (rename : UInt64 → UInt64) : Segment → Segment
  | .method name slots => .method name (slots.map rename)
  | .field name => .field name
  | .index position => .index position

/-- The path with every slot under its new name. -/
def renamedPath (rename : UInt64 → UInt64) (path : Path) : Path :=
  ⟨path.segments.map (renamedSegment rename)⟩

/-- The errors that a segment and its renamed form fail with. They are of one kind
and say the same, but for the text of the segment, the name of the slot and the
count of the arguments that were supplied. -/
inductive Corresponds (rename : UInt64 → UInt64) (supplied supplied' : Nat) (segment : Segment) :
    EvalError → EvalError → Prop where
  | nullReceiver : Corresponds rename supplied supplied' segment
      (.nullReceiver segment.display) (.nullReceiver (renamedSegment rename segment).display)
  | fieldNotFound (typeName field : String) : Corresponds rename supplied supplied' segment
      (.fieldNotFound typeName field) (.fieldNotFound typeName field)
  | methodNotFound (typeName name : String) (arity : Nat) :
      Corresponds rename supplied supplied' segment
        (.methodNotFound typeName name arity) (.methodNotFound typeName name arity)
  | argumentOutOfRange (slot : UInt64) (present : slot ∈ slotsOf segment) :
      Corresponds rename supplied supplied' segment
        (.argumentOutOfRange slot.toNat supplied)
        (.argumentOutOfRange (rename slot).toNat supplied')
  | invocation (source : InvokeError) : Corresponds rename supplied supplied' segment
      (.invocation segment.display source)
      (.invocation (renamedSegment rename segment).display source)
  | negativeIndex (index : Int64) : Corresponds rename supplied supplied' segment
      (.negativeIndex index) (.negativeIndex index)
  | missingIndex : Corresponds rename supplied supplied' segment .missingIndex .missingIndex
  | indexOutOfRange (index : Nat) : Corresponds rename supplied supplied' segment
      (.indexOutOfRange index) (.indexOutOfRange index)
  | notIterable (typeName : String) : Corresponds rename supplied supplied' segment
      (.notIterable typeName) (.notIterable typeName)

/-- The walk gets as far as the segment at this position and fails there. -/
structure StopsAt (evaluator : Evaluator) (root : Value) (path : Path) (position : Nat)
    (segment : Segment) (error : EvalError) : Prop where
  reached : ∃ value, evaluator.tryEvaluate root ⟨path.segments.take position⟩ = .ok value ∧
    evaluator.step value segment = .error error
  present : path.segments[position]? = some segment

/-- Two walks that end alike: on one value, or at corresponding segments with
corresponding errors. -/
inductive EndAlike (rename : UInt64 → UInt64) (evaluator evaluator' : Evaluator) (root : Value)
    (path : Path) : Except EvalError Value → Except EvalError Value → Prop where
  | resolved (value : Value) :
      EndAlike rename evaluator evaluator' root path (.ok value) (.ok value)
  | stopped (position : Nat) (segment : Segment) (error error' : EvalError)
      (here : StopsAt evaluator root path position segment error)
      (there : StopsAt evaluator' root (renamedPath rename path) position
        (renamedSegment rename segment) error')
      (corresponds : Corresponds rename evaluator.args.length evaluator'.args.length segment
        error error') :
      EndAlike rename evaluator evaluator' root path (.error error) (.error error')

section
variable (objects : Objects) (threshold threshold' : Nat) {args args' : List Value}
  {rename : UInt64 → UInt64}

/-- Slots find the same arguments under their new names, or the same slot is the
first one that finds none. -/
theorem resolveArgs_renamed (slots : List UInt64)
    (agree : ∀ slot ∈ slots, args[slot.toNat]? = args'[(rename slot).toNat]?) :
    (∃ values, (Evaluator.mk objects args threshold).resolveArgs slots = .ok values ∧
      (Evaluator.mk objects args' threshold').resolveArgs (slots.map rename) = .ok values) ∨
    ∃ slot ∈ slots, (Evaluator.mk objects args threshold).resolveArgs slots =
        .error (.argumentOutOfRange slot.toNat args.length) ∧
      (Evaluator.mk objects args' threshold').resolveArgs (slots.map rename) =
        .error (.argumentOutOfRange (rename slot).toNat args'.length) := by
  induction slots with
  | nil => exact .inl ⟨[], rfl, rfl⟩
  | cons slot rest ih =>
    have same := agree slot List.mem_cons_self
    simp only [Evaluator.resolveArgs, List.map_cons, List.mapM_cons] at ih ⊢
    rw [← same]
    cases args[slot.toNat]? with
    | none => exact .inr ⟨slot, List.mem_cons_self, rfl, rfl⟩
    | some value =>
      rcases ih fun other member => agree other (List.mem_cons_of_mem _ member) with
        ⟨values, here, there⟩ | ⟨missing, member, here, there⟩
      · exact .inl ⟨value :: values, by rw [here]; rfl, by rw [there]; rfl⟩
      · exact .inr ⟨missing, List.mem_cons_of_mem _ member, by rw [here]; rfl, by rw [there]; rfl⟩

/-- What one step and its renamed form come to. -/
inductive StepAlike (rename : UInt64 → UInt64) (supplied supplied' : Nat) (segment : Segment) :
    Except EvalError Value → Except EvalError Value → Prop where
  | value (value : Value) : StepAlike rename supplied supplied' segment (.ok value) (.ok value)
  | failure {error error' : EvalError}
      (corresponds : Corresponds rename supplied supplied' segment error error') :
      StepAlike rename supplied supplied' segment (.error error) (.error error')

/-- A call chooses the same method and gives it the same arguments. -/
theorem callMethod_renamed (current : Value) (name : String) (slots : List UInt64)
    (agree : ∀ slot ∈ slots, args[slot.toNat]? = args'[(rename slot).toNat]?) :
    StepAlike rename args.length args'.length (.method name slots)
      ((Evaluator.mk objects args threshold).callMethod current name slots)
      ((Evaluator.mk objects args' threshold').callMethod current name (slots.map rename)) := by
  simp only [Evaluator.callMethod, Evaluator.prepareCall]
  rcases resolveArgs_renamed objects threshold threshold' slots agree with
    ⟨values, here, there⟩ | ⟨slot, member, here, there⟩
  · rw [here, there]
    cases table : current.typeInfo? objects with
    | none => exact .failure .nullReceiver
    | some info =>
      simp only [Evaluator.candidates]
      cases (info.methods name values.length).filter fun method =>
          signatureAccepts objects method.params values with
      | nil => exact .failure (.methodNotFound _ _ _)
      | cons method more =>
        simp only
        cases method.invoke current values with
        | ok value => exact .value value
        | error source => exact .failure (.invocation source)
  · rw [here, there]
    exact .failure (.argumentOutOfRange slot member)

/-- Fields and elements do not depend on the arguments, and of a failed step one
can read off why it failed. -/
theorem readField_corresponds (current : Value) (name : String) :
    StepAlike rename args.length args'.length (.field name)
      ((Evaluator.mk objects args threshold).readField current name)
      ((Evaluator.mk objects args' threshold').readField current name) := by
  unfold Evaluator.readField
  split
  · split
    · exact .value _
    · exact .failure (.fieldNotFound _ _)
  · dsimp only
    split
    · exact .failure .nullReceiver
    · split
      · exact .value _
      · exact .failure (.fieldNotFound _ _)

/-- Whatever the arguments are, an element is read or its position is out of range. -/
theorem element_corresponds (position : Int64) (items : List Value) :
    StepAlike rename args.length args'.length (.index (some position))
      (match items[position.toInt.toNat]? with
        | some value => .ok value
        | none => .error (.indexOutOfRange position.toInt.toNat))
      (match items[position.toInt.toNat]? with
        | some value => .ok value
        | none => .error (.indexOutOfRange position.toInt.toNat)) := by
  cases items[position.toInt.toNat]? with
  | some value => exact .value value
  | none => exact .failure (.indexOutOfRange _)

theorem readIndex_corresponds (current : Value) (position : Option Int64) :
    StepAlike rename args.length args'.length (.index position)
      ((Evaluator.mk objects args threshold).readIndex current position)
      ((Evaluator.mk objects args' threshold').readIndex current position) := by
  unfold Evaluator.readIndex
  cases position with
  | none => exact .failure .missingIndex
  | some position =>
    dsimp only
    split
    · exact .failure (.negativeIndex _)
    · split
      · exact element_corresponds _ _
      · exact element_corresponds _ _
      · split
        · exact element_corresponds _ _
        · exact .failure (.notIterable _)
      · exact .failure .nullReceiver
      · exact .failure (.notIterable _)

/-- A step comes to the same in its renamed form. -/
theorem step_renamed (current : Value) (segment : Segment)
    (agree : ∀ slot ∈ slotsOf segment, args[slot.toNat]? = args'[(rename slot).toNat]?) :
    StepAlike rename args.length args'.length segment
      ((Evaluator.mk objects args threshold).step current segment)
      ((Evaluator.mk objects args' threshold').step current (renamedSegment rename segment)) := by
  cases segment with
  | field name => exact readField_corresponds objects threshold threshold' current name
  | method name slots =>
    exact callMethod_renamed objects threshold threshold' current name slots agree
  | index position => exact readIndex_corresponds objects threshold threshold' current position

/-! ## Walks -/

theorem tryEvaluate_cons {evaluator : Evaluator} {root value : Value} {segment : Segment}
    (stepped : evaluator.step root segment = .ok value) (rest : List Segment) :
    evaluator.tryEvaluate root ⟨segment :: rest⟩ = evaluator.tryEvaluate value ⟨rest⟩ := by
  simp only [Evaluator.tryEvaluate, List.foldlM_cons, stepped]
  rfl

theorem tryEvaluate_failed {evaluator : Evaluator} {root : Value} {segment : Segment}
    {error : EvalError} (failed : evaluator.step root segment = .error error)
    (rest : List Segment) : evaluator.tryEvaluate root ⟨segment :: rest⟩ = .error error := by
  simp only [Evaluator.tryEvaluate, List.foldlM_cons, failed]
  rfl

/-- A walk that stops behind its first step stops one position later with it. -/
theorem StopsAt.behind {evaluator : Evaluator} {root value : Value} {first segment : Segment}
    {rest : List Segment} {position : Nat} {error : EvalError}
    (stops : StopsAt evaluator value ⟨rest⟩ position segment error)
    (stepped : evaluator.step root first = .ok value) :
    StopsAt evaluator root ⟨first :: rest⟩ (position + 1) segment error where
  reached := by
    obtain ⟨last, arrived, failed⟩ := stops.reached
    exact ⟨last, (tryEvaluate_cons stepped _).trans arrived, failed⟩
  present := stops.present

/-- A walk comes to the same in its renamed form. -/
theorem walk_renamed (segments : List Segment) (root : Value)
    (agree : ∀ segment ∈ segments, ∀ slot ∈ slotsOf segment,
      args[slot.toNat]? = args'[(rename slot).toNat]?) :
    EndAlike rename ⟨objects, args, threshold⟩ ⟨objects, args', threshold'⟩ root ⟨segments⟩
      ((Evaluator.mk objects args threshold).tryEvaluate root ⟨segments⟩)
      ((Evaluator.mk objects args' threshold').tryEvaluate root
        (renamedPath rename ⟨segments⟩)) := by
  induction segments generalizing root with
  | nil => exact .resolved root
  | cons segment rest ih =>
    have alike := step_renamed objects threshold threshold' root segment
      (agree segment List.mem_cons_self)
    generalize here : (Evaluator.mk objects args threshold).step root segment = result at alike
    generalize there : (Evaluator.mk objects args' threshold').step root
      (renamedSegment rename segment) = result' at alike
    cases alike with
    | value value =>
      have later := ih value fun other member => agree other (List.mem_cons_of_mem _ member)
      rw [renamedPath, List.map_cons, tryEvaluate_cons here, tryEvaluate_cons there]
      generalize (Evaluator.mk objects args threshold).tryEvaluate value ⟨rest⟩ = ended at later
      change EndAlike _ _ _ _ _ _ ((Evaluator.mk objects args' threshold').tryEvaluate value
        ⟨rest.map (renamedSegment rename)⟩) at later
      generalize (Evaluator.mk objects args' threshold').tryEvaluate value
        ⟨rest.map (renamedSegment rename)⟩ = ended' at later
      cases later with
      | resolved value => exact .resolved value
      | stopped position last error error' stops stops' corresponds =>
        exact .stopped (position + 1) last error error' (stops.behind here) (stops'.behind there)
          corresponds
    | failure corresponds =>
      rw [renamedPath, List.map_cons, tryEvaluate_failed here, tryEvaluate_failed there]
      exact .stopped 0 segment _ _ ⟨⟨root, rfl, here⟩, rfl⟩ ⟨⟨root, rfl, there⟩, rfl⟩ corresponds

/-- Where no slot changes its name and the counts agree, corresponding errors are
the same error. -/
theorem Corresponds.same {supplied : Nat} {segment : Segment} {error error' : EvalError}
    (corresponds : Corresponds id supplied supplied segment error error') : error = error' := by
  have unchanged : renamedSegment id segment = segment := by cases segment <;> simp [renamedSegment]
  cases corresponds <;> simp [unchanged]

theorem renamedPath_id (path : Path) : renamedPath id path = path := by
  have unchanged : renamedSegment id = id := by
    funext segment
    cases segment <;> simp [renamedSegment]
  rw [renamedPath, unchanged, List.map_id]

end

/-! ## More arguments -/

/-- Slots that were resolved had arguments. -/
theorem supplied_of_resolved {evaluator : Evaluator} {slots : List UInt64} {values : List Value}
    (resolved : evaluator.resolveArgs slots = .ok values) :
    ∀ slot ∈ slots, slot.toNat < evaluator.args.length := by
  induction slots generalizing values with
  | nil => simp
  | cons slot rest ih =>
    rw [Evaluator.resolveArgs, List.mapM_cons] at resolved
    cases found : evaluator.args[slot.toNat]? with
    | none =>
      rw [found] at resolved
      cases resolved
    | some value =>
      cases later : evaluator.resolveArgs rest with
      | error error =>
        rw [Evaluator.resolveArgs] at later
        rw [found, later] at resolved
        cases resolved
      | ok values =>
        exact List.forall_mem_cons.mpr ⟨(List.getElem?_eq_some_iff.mp found).1, ih later⟩

/-- Every slot of a step that was made had an argument. -/
theorem supplied_of_step {evaluator : Evaluator} {current value : Value} {segment : Segment}
    (stepped : evaluator.step current segment = .ok value) :
    ∀ slot ∈ slotsOf segment, slot.toNat < evaluator.args.length := by
  cases segment with
  | field name => simp [slotsOf]
  | index position => simp [slotsOf]
  | method name slots =>
    simp only [Evaluator.step, Evaluator.callMethod, Evaluator.prepareCall] at stepped
    cases resolved : evaluator.resolveArgs slots with
    | ok values => exact supplied_of_resolved resolved
    | error error =>
      rw [resolved] at stepped
      cases stepped

/-- Every slot of a path that was resolved had an argument. -/
theorem supplied_of_walk {evaluator : Evaluator} (segments : List Segment) {root value : Value}
    (resolved : evaluator.tryEvaluate root ⟨segments⟩ = .ok value) :
    ∀ segment ∈ segments, ∀ slot ∈ slotsOf segment, slot.toNat < evaluator.args.length := by
  induction segments generalizing root with
  | nil => simp
  | cons segment rest ih =>
    cases stepped : evaluator.step root segment with
    | error error =>
      rw [tryEvaluate_failed stepped] at resolved
      cases resolved
    | ok next =>
      rw [tryEvaluate_cons stepped] at resolved
      exact List.forall_mem_cons.mpr ⟨supplied_of_step stepped, ih resolved⟩

/-- Only the arguments that a path refers to matter, and not where they stand. If
every slot of a path finds under its new name what it found before, both walks end
alike. So more arguments change nothing about a path that resolves, and arguments
that a path does not refer to change nothing at all. -/
theorem only_referenced_arguments_matter :
    (∀ (objects : Objects) (args args' : List Value) (threshold threshold' : Nat)
      (rename : UInt64 → UInt64) (root : Value) (path : Path),
      (∀ slot ∈ pathSlots path, args[slot.toNat]? = args'[(rename slot).toNat]?) →
        EndAlike rename ⟨objects, args, threshold⟩ ⟨objects, args', threshold'⟩ root path
          ((Evaluator.mk objects args threshold).tryEvaluate root path)
          ((Evaluator.mk objects args' threshold').tryEvaluate root (renamedPath rename path))) ∧
    (∀ (objects : Objects) (args more : List Value) (threshold : Nat) (root value : Value)
      (path : Path), (Evaluator.mk objects args threshold).tryEvaluate root path = .ok value →
        (Evaluator.mk objects (args ++ more) threshold).tryEvaluate root path = .ok value) ∧
    ∀ (objects : Objects) (args args' : List Value) (threshold : Nat) (root : Value)
      (path : Path), args.length = args'.length →
      (∀ slot ∈ pathSlots path, args[slot.toNat]? = args'[slot.toNat]?) →
        (Evaluator.mk objects args threshold).tryEvaluate root path =
          (Evaluator.mk objects args' threshold).tryEvaluate root path := by
  refine ⟨?_, ?_, ?_⟩
  · intro objects args args' threshold threshold' rename root path agree
    exact walk_renamed objects threshold threshold' path.segments root
      fun segment member slot inside => agree slot (List.mem_flatMap.mpr ⟨segment, member, inside⟩)
  · intro objects args more threshold root value path resolved
    have supplied := supplied_of_walk path.segments resolved
    have agree : ∀ segment ∈ path.segments, ∀ slot ∈ slotsOf segment,
        args[slot.toNat]? = (args ++ more)[(id slot).toNat]? :=
      fun segment member slot inside =>
        (List.getElem?_append_left (supplied segment member slot inside)).symm
    have alike := walk_renamed objects threshold threshold path.segments root agree
    rw [renamedPath_id, resolved] at alike
    generalize
      (Evaluator.mk objects (args ++ more) threshold).tryEvaluate root path = ended at alike
    cases alike
    rfl
  · intro objects args args' threshold root path counts agree
    have each : ∀ segment ∈ path.segments, ∀ slot ∈ slotsOf segment,
        args[slot.toNat]? = args'[(id slot).toNat]? := fun segment member slot inside =>
      agree slot (List.mem_flatMap.mpr ⟨segment, member, inside⟩)
    have alike := walk_renamed objects threshold threshold path.segments root each
    rw [renamedPath_id] at alike
    generalize (Evaluator.mk objects args threshold).tryEvaluate root path = ended at alike
    generalize (Evaluator.mk objects args' threshold).tryEvaluate root path = ended' at alike
    cases alike with
    | resolved value => rfl
    | stopped position segment error error' stops stops' corresponds =>
      rw [counts] at corresponds
      rw [corresponds.same]

/-- The bounds of a part of a text change places, and the slot after them, which has
no argument, takes another name: the first call finds the same part, and the second
one fails in both walks. The first call alone also resolves with more arguments, and
a call with one bound does not look at the other argument. -/
theorem exchanged_bounds_cut_alike :
    let rename : UInt64 → UInt64 := fun slot => if slot = 2 then 7 else 3 - slot
    let few : Evaluator := ⟨Objects.empty, [.int 1, .int 3], 3⟩
    let many : Evaluator := ⟨Objects.empty, [.null, .null, .int 3, .int 1], 2⟩
    let root : Value := .string "hello"
    let cut : Segment := .method "substring" [0, 1]
    let path : Path := ⟨[cut, .method "concat" [2]]⟩
    ((∀ slot ∈ pathSlots path, few.args[slot.toNat]? = many.args[(rename slot).toNat]?) ∧
      few.tryEvaluate root path = .error (.argumentOutOfRange 2 2) ∧
      many.tryEvaluate root (renamedPath rename path) = .error (.argumentOutOfRange 7 4) ∧
      EndAlike rename few many root path (few.tryEvaluate root path)
        (many.tryEvaluate root (renamedPath rename path))) ∧
    (few.tryEvaluate root ⟨[cut]⟩ = .ok (.string "el") ∧
      (Evaluator.mk Objects.empty ([.int 1, .int 3] ++ [.null]) 3).tryEvaluate root ⟨[cut]⟩ =
        .ok (.string "el")) ∧
    (few.args.length = [Value.int 1, .null].length ∧
      few.tryEvaluate root ⟨[.method "substring" [0]]⟩ =
        (Evaluator.mk Objects.empty [.int 1, .null] 3).tryEvaluate root
          ⟨[.method "substring" [0]]⟩) := by
  intro rename few many root cut path
  have agree : ∀ slot ∈ pathSlots path,
      few.args[slot.toNat]? = many.args[(rename slot).toNat]? := by
    intro slot member
    change slot ∈ [0, 1, 2] at member
    simp only [List.mem_cons, List.not_mem_nil, or_false] at member
    rcases member with rfl | rfl | rfl <;> rfl
  have first : few.tryEvaluate root ⟨[cut]⟩ = .ok (.string "el") := by
    change Except.ok (Value.string (StringMembers.slice "hello" 1 3)) = _
    rw [StringMembers.slice_eq (by decide)]
    rfl
  have bound : ∀ slot ∈ pathSlots ⟨[.method "substring" [0]]⟩,
      few.args[slot.toNat]? = [Value.int 1, .null][slot.toNat]? := by
    intro slot member
    rcases List.mem_singleton.mp member with rfl
    rfl
  obtain ⟨renamed, appended, unreferenced⟩ := only_referenced_arguments_matter
  exact ⟨⟨agree, by rfl, by rfl, renamed _ _ _ _ _ rename root path agree⟩,
    ⟨first, appended _ _ _ _ _ _ _ first⟩, by rfl, unreferenced _ _ _ _ _ _ (by rfl) bound⟩

end ValuePath.SlotRenaming
