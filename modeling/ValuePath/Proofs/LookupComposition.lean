import ValuePath.Lookup.Get

/-! Lookups compose. A dot joins paths as their segments are joined, a walk along
joined segments goes on from where the first part of it ends, and no step leads
away from null, so that a lookup which ends on null is the end of every lookup
that goes on from there. -/
namespace ValuePath.LookupComposition

/-- What a walk finds: no null, and nothing where it fails. -/
def found : Except EvalError Value → Option Value
  | .ok .null => none
  | .ok value => some value
  | .error _ => none

/-! ## Paths -/

theorem segments_of_joined (first second : String) :
    (Path.parse (first ++ "." ++ second)).segments =
      (Path.parse first).segments ++ (Path.parse second).segments := by
  have text : (first ++ "." ++ second).toList = first.toList ++ '.' :: second.toList := by
    simp [String.toList_append]
  rw [Path.parse, Path.ofText, text, List.splitOn_append_cons_self]
  exact List.flatMap_append

/-! ## Walks -/

section Walks
variable (evaluator : Evaluator)

/-- A walk along joined segments is a walk along the first of them and another
one from its end. -/
theorem tryEvaluate_append (root : Value) (first second : List Segment) :
    evaluator.tryEvaluate root ⟨first ++ second⟩ =
      match evaluator.tryEvaluate root ⟨first⟩ with
      | .ok value => evaluator.tryEvaluate value ⟨second⟩
      | .error error => .error error := by
  simp only [Evaluator.tryEvaluate, List.foldlM_append]
  cases first.foldlM evaluator.step root <;> rfl

/-- Null has no fields, no methods and no elements. Which error says so depends
on the arguments of a call and on the position of an element. -/
theorem step_null (segment : Segment) : ∃ error, evaluator.step .null segment = .error error := by
  cases segment with
  | field name => exact ⟨_, rfl⟩
  | method name slots =>
    simp only [Evaluator.step, Evaluator.callMethod, Evaluator.prepareCall]
    cases evaluator.resolveArgs slots <;> exact ⟨_, rfl⟩
  | index position =>
    simp only [Evaluator.step, Evaluator.readIndex]
    cases position with
    | none => exact ⟨_, rfl⟩
    | some position =>
      by_cases negative : position < 0
      · exact ⟨.negativeIndex position, by simp [negative]⟩
      · exact ⟨.nullReceiver (Segment.index (some position)).display, by simp [negative]⟩

/-- Whatever path is taken from null, nothing is found. -/
theorem found_from_null (segments : List Segment) :
    found (evaluator.tryEvaluate .null ⟨segments⟩) = none := by
  cases segments with
  | nil => rfl
  | cons segment rest =>
    obtain ⟨error, failed⟩ := step_null evaluator segment
    rw [Evaluator.tryEvaluate, List.foldlM_cons, failed]
    rfl

/-- Where the first part of a walk finds nothing, the whole walk finds nothing,
and else it finds what the second part finds from there. -/
theorem found_append (root : Value) (first second : List Segment) :
    found (evaluator.tryEvaluate root ⟨first ++ second⟩) =
      (found (evaluator.tryEvaluate root ⟨first⟩)).bind fun value =>
        found (evaluator.tryEvaluate value ⟨second⟩) := by
  rw [tryEvaluate_append]
  cases evaluator.tryEvaluate root ⟨first⟩ with
  | error error => rfl
  | ok value =>
    cases value with
    | null => exact found_from_null evaluator second
    | _ => rfl

theorem evaluate_found (root : Value) (path : Path) :
    (evaluator.evaluate root path).1 = found (evaluator.tryEvaluate root path) := by
  have bare := evaluator.walk_fst root path.segments
  rw [Evaluator.tryEvaluate, ← bare, Evaluator.evaluate]
  generalize evaluator.walk root path.segments = walked
  obtain ⟨result, warnings⟩ := walked
  cases result with
  | error error => rfl
  | ok value => cases value <;> rfl

/-- What stops a walk stops every longer one, with the same error. -/
theorem error_of_prefix {root : Value} {first second : List Segment} {error : EvalError}
    (longer : first <+: second) (failed : evaluator.tryEvaluate root ⟨first⟩ = .error error) :
    evaluator.tryEvaluate root ⟨second⟩ = .error error := by
  obtain ⟨rest, rfl⟩ := longer
  rw [tryEvaluate_append, failed]

end Walks

/-- Lookups compose. A path of two texts with a dot between them leads to where
the second one leads from the end of the first one, and nowhere if the first one
leads nowhere; a walk along joined segments is one walk after the other; and the
error that stops a walk also stops every longer one. -/
theorem lookups_compose :
    (∀ (objects : Objects) (root : Value) (args : List Value) (first second : String),
      get objects root (.text (first ++ "." ++ second)) args =
        (get objects root (.text first) args).bind fun value =>
          get objects value (.text second) args) ∧
    (∀ (evaluator : Evaluator) (root : Value) (first second : List Segment),
      evaluator.tryEvaluate root ⟨first ++ second⟩ =
        match evaluator.tryEvaluate root ⟨first⟩ with
        | .ok value => evaluator.tryEvaluate value ⟨second⟩
        | .error error => .error error) ∧
    ∀ (evaluator : Evaluator) (root : Value) (path : Path) (short long : Nat) (error : EvalError),
      short ≤ long → evaluator.tryEvaluate root ⟨path.segments.take short⟩ = .error error →
        evaluator.tryEvaluate root ⟨path.segments.take long⟩ = .error error := by
  refine ⟨?_, tryEvaluate_append, ?_⟩
  · intro objects root args first second
    have joined : Path.parse (first ++ "." ++ second) =
        ⟨(Path.parse first).segments ++ (Path.parse second).segments⟩ := by
      rw [← segments_of_joined]
    simp only [get, PathForm.path, evaluate_found, joined]
    exact found_append _ root _ _
  · intro evaluator root path short long error less failed
    exact error_of_prefix evaluator (List.take_prefix_take_left less) failed

/-- A user without a name: the first step below the name fails, and so does every
path through it. -/
theorem nothing_below_missing_name :
    let evaluator : Evaluator := ⟨Objects.empty, [], 3⟩
    let root : Value := .map [("user", .map [("name", .null)])]
    let path : Path := ⟨[.field "user", .field "name", .field "first", .index none]⟩
    3 ≤ 4 ∧
      evaluator.tryEvaluate root ⟨path.segments.take 3⟩ = .error (.nullReceiver "first") ∧
      evaluator.tryEvaluate root ⟨path.segments.take 4⟩ = .error (.nullReceiver "first") := by
  intro evaluator root path
  have stopped : evaluator.tryEvaluate root ⟨path.segments.take 3⟩ =
      .error (.nullReceiver "first") := rfl
  exact ⟨by decide, stopped, lookups_compose.2.2 evaluator root path 3 4 _ (by decide) stopped⟩

end ValuePath.LookupComposition
