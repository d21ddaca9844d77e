import ValuePath.Program.Run
import ValuePath.Proofs.CallSteps
import ValuePath.Proofs.SlotRenaming

/-! What a walk leaves in the log. The number of overloads that is worth a warning
has no influence on where the walk leads; it only decides which of the calls on the
way are reported. Behind the warnings stands a note, if the walk fails. -/
namespace ValuePath.WalkLog
open OverloadDispatch CallSteps
open LookupComposition (evaluate_found)
open SlotRenaming (tryEvaluate_cons tryEvaluate_failed)

/-- The segment at a position is worth a warning: it is a call that the walk gets to,
on a value with a member table and with an argument in every slot, and as many
overloads accept the arguments as are worth one, at least one in any case. -/
inductive Warns (evaluator : Evaluator) (root : Value) (segments : List Segment)
    (position : Nat) : LookupRecord → Prop where
  | call (reached : evaluator.tryEvaluate root ⟨segments.take position⟩ = .ok current)
      (present : segments[position]? = some (.method name slots))
      (supplied : Supplied evaluator.args slots values)
      (typed : current.typeInfo? evaluator.objects = some info)
      (enough : max evaluator.ambiguityThreshold 1 ≤
        (accepting evaluator info name slots values).length) :
      Warns evaluator root segments position
        (.ambiguous (accepting evaluator info name slots values).length info.name name)

/-- The records are the warnings of a walk: one for each position that is worth it,
in the order of the positions. -/
structure Chronicle (evaluator : Evaluator) (root : Value) (segments : List Segment)
    (positions : List Nat) (records : List LookupRecord) : Prop where
  ordered : positions.Pairwise (· < ·)
  complete : ∀ position record, Warns evaluator root segments position record →
    position ∈ positions
  each : List.Forall₂ (Warns evaluator root segments) positions records

/-- The note on a walk that fails. One that ends on null does not fail. -/
def failureNote (path : Path) : Except EvalError Value → List LookupRecord
  | .ok _ => []
  | .error error => [.unresolved path error]

/-- The warnings among the records. -/
def warningsOf (records : List LookupRecord) : List LookupRecord :=
  records.filter fun record => (LogEntry.lookup record).isWarning

/-- The records that are shown on demand only. -/
def notesOf (records : List LookupRecord) : List LookupRecord :=
  records.filter fun record => !(LogEntry.lookup record).isWarning

/-! ## One step -/

section Steps
variable {evaluator : Evaluator} {root : Value} {segment : Segment}

theorem stepWarning_typed {name : String} {slots : List UInt64} {values : List Value}
    {info : TypeInfo} (supplied : Supplied evaluator.args slots values)
    (typed : root.typeInfo? evaluator.objects = some info) :
    evaluator.stepWarning root (.method name slots) =
      if max evaluator.ambiguityThreshold 1 ≤ (accepting evaluator info name slots values).length then
        [.ambiguous (accepting evaluator info name slots values).length info.name name]
      else [] := by
  rw [Evaluator.stepWarning, prepareCall_typed supplied typed]
  cases accepting evaluator info name slots values with
  | nil => simp
  | cons method more =>
    have least : max evaluator.ambiguityThreshold 1 ≤ more.length + 1 ↔
        evaluator.ambiguityThreshold ≤ more.length + 1 := by omega
    simp [least]

/-- A step gives one warning at most, and only a call that can be made gives one. -/
theorem stepWarning_cases (evaluator : Evaluator) (root : Value) (segment : Segment) :
    evaluator.stepWarning root segment = [] ∨
      ∃ name slots values info, segment = .method name slots ∧
        Supplied evaluator.args slots values ∧
        root.typeInfo? evaluator.objects = some info := by
  cases segment with
  | field name => exact .inl rfl
  | index position => exact .inl rfl
  | method name slots =>
    rcases slots_cases evaluator.args slots with ⟨values, supplied⟩ |
      ⟨before, slot, after, first, inside, outside⟩
    · cases typed : root.typeInfo? evaluator.objects with
      | none =>
        rw [typeInfo_none_iff] at typed
        subst typed
        exact .inl (by rw [Evaluator.stepWarning, prepareCall_null supplied])
      | some info => exact .inr ⟨name, slots, values, info, rfl, supplied, rfl⟩
    · subst first
      exact .inl (by rw [Evaluator.stepWarning, prepareCall_outside inside outside])

theorem stepWarning_short (evaluator : Evaluator) (root : Value) (segment : Segment) :
    evaluator.stepWarning root segment = [] ∨
      ∃ record, evaluator.stepWarning root segment = [record] := by
  rcases stepWarning_cases evaluator root segment with none |
    ⟨name, slots, values, info, rfl, supplied, typed⟩
  · exact .inl none
  · rw [stepWarning_typed supplied typed]
    split
    · exact .inr ⟨_, rfl⟩
    · exact .inl rfl

/-- The warning of a first step is the one that its segment is worth, whatever follows. -/
theorem warns_first {record : LookupRecord} {rest : List Segment} :
    Warns evaluator root (segment :: rest) 0 record ↔
      evaluator.stepWarning root segment = [record] := by
  constructor
  · rintro ⟨reached, present, supplied, typed, enough⟩
    cases reached
    cases present
    rw [stepWarning_typed supplied typed, if_pos enough]
  · intro warned
    rcases stepWarning_cases evaluator root segment with none |
      ⟨name, slots, values, info, rfl, supplied, typed⟩
    · rw [none] at warned
      cases warned
    · rw [stepWarning_typed supplied typed] at warned
      split at warned
      · rename_i enough
        cases warned
        exact .call rfl rfl supplied typed enough
      · cases warned

/-- Behind a step that is made, a walk is worth the warnings of the walk from there. -/
theorem warns_behind {value : Value} {record : LookupRecord} {rest : List Segment}
    {position : Nat} (stepped : evaluator.step root segment = .ok value) :
    Warns evaluator root (segment :: rest) (position + 1) record ↔
      Warns evaluator value rest position record := by
  constructor
  · rintro ⟨reached, present, supplied, typed, enough⟩
    rw [List.take_succ_cons, tryEvaluate_cons stepped] at reached
    exact .call reached present supplied typed enough
  · rintro ⟨reached, present, supplied, typed, enough⟩
    refine .call ?_ present supplied typed enough
    rw [List.take_succ_cons, tryEvaluate_cons stepped]
    exact reached

/-- Behind a step that fails, nothing is worth a warning. -/
theorem not_warns_behind {error : EvalError} {record : LookupRecord} {rest : List Segment}
    {position : Nat} (failed : evaluator.step root segment = .error error) :
    ¬ Warns evaluator root (segment :: rest) (position + 1) record := by
  rintro ⟨reached, -, -, -, -⟩
  rw [List.take_succ_cons, tryEvaluate_failed failed] at reached
  cases reached

end Steps

/-! ## Walks -/

section Walks
variable {evaluator : Evaluator}

/-- The warning of the first step, if there is one, comes before those of the rest,
whose positions count from the second segment on. -/
theorem chronicle_cons {root : Value} {segment : Segment} {rest : List Segment}
    {positions : List Nat} {records : List LookupRecord}
    (ordered : positions.Pairwise (· < ·))
    (complete : ∀ position record, Warns evaluator root (segment :: rest) (position + 1) record →
      position ∈ positions)
    (each : List.Forall₂ (fun position => Warns evaluator root (segment :: rest) (position + 1))
      positions records) :
    ∃ more, Chronicle evaluator root (segment :: rest) more
      (evaluator.stepWarning root segment ++ records) := by
  have shifted : (positions.map (· + 1)).Pairwise (· < ·) :=
    ordered.map _ fun _ _ less => Nat.succ_lt_succ less
  have eachShifted : List.Forall₂ (Warns evaluator root (segment :: rest))
      (positions.map (· + 1)) records := List.forall₂_map_left_iff.mpr each
  have behind : ∀ position record, Warns evaluator root (segment :: rest) (position + 1) record →
      position + 1 ∈ positions.map (· + 1) := fun position record warns =>
    List.mem_map_of_mem (complete position record warns)
  rcases stepWarning_short evaluator root segment with none | ⟨first, warned⟩
  · refine ⟨positions.map (· + 1), shifted, fun position record warns => ?_, by
      rwa [none, List.nil_append]⟩
    cases position with
    | zero => cases none.symm.trans (warns_first.mp warns)
    | succ position => exact behind position record warns
  · refine ⟨0 :: positions.map (· + 1), List.pairwise_cons.mpr ⟨?_, shifted⟩, ?_, ?_⟩
    · rintro position member
      obtain ⟨before, -, rfl⟩ := List.mem_map.mp member
      exact Nat.succ_pos before
    · intro position record warns
      cases position with
      | zero => exact List.mem_cons_self
      | succ position => exact List.mem_cons_of_mem _ (behind position record warns)
    · rw [warned]
      exact .cons (warns_first.mpr warned) eachShifted

theorem chronicle_exists (segments : List Segment) (root : Value) :
    ∃ positions, Chronicle evaluator root segments positions (evaluator.walk root segments).2 := by
  induction segments generalizing root with
  | nil =>
    refine ⟨[], .nil, fun position record warns => ?_, .nil⟩
    obtain ⟨-, present, -, -, -⟩ := warns
    cases present
  | cons segment rest ih =>
    rw [Evaluator.walk]
    cases stepped : evaluator.step root segment with
    | error error =>
      have alone : ∃ more, Chronicle evaluator root (segment :: rest) more
          (evaluator.stepWarning root segment ++ []) :=
        chronicle_cons .nil (fun _ _ warns => absurd warns (not_warns_behind stepped)) .nil
      rwa [List.append_nil] at alone
    | ok value =>
      obtain ⟨positions, later⟩ := ih value
      exact chronicle_cons later.ordered
        (fun position record warns => later.complete position record ((warns_behind stepped).mp warns))
        (later.each.imp fun position record warns => (warns_behind stepped).mpr warns)

/-- Behind the warnings, the log holds the note on a failure. -/
theorem evaluate_log (root : Value) (path : Path) : (evaluator.evaluate root path).2 =
    (evaluator.walk root path.segments).2 ++ failureNote path (evaluator.tryEvaluate root path) := by
  have bare := evaluator.walk_fst root path.segments
  rw [Evaluator.tryEvaluate, ← bare, Evaluator.evaluate]
  generalize evaluator.walk root path.segments = walked
  obtain ⟨result, warnings⟩ := walked
  cases result with
  | error error => rfl
  | ok value => cases value <;> exact (List.append_nil _).symm

theorem isWarning_of_walk {segments : List Segment} {root : Value} :
    ∀ record ∈ (evaluator.walk root segments).2, (LogEntry.lookup record).isWarning = true := by
  obtain ⟨positions, chronicle⟩ : ∃ positions, Chronicle evaluator root segments positions
    (evaluator.walk root segments).2 := chronicle_exists segments root
  have shown : List.Forall₂ (fun record position => (LogEntry.lookup record).isWarning = true ∧
      Warns evaluator root segments position record) (evaluator.walk root segments).2 positions :=
    List.Forall₂.flip (chronicle.each.imp fun _ _ warns => ⟨by cases warns; rfl, warns⟩)
  exact ((List.forall₂_and_left _ _).mp shown).1

theorem warnings_of_log (root : Value) (path : Path) :
    warningsOf (evaluator.evaluate root path).2 = (evaluator.walk root path.segments).2 := by
  have noted : warningsOf (failureNote path (evaluator.tryEvaluate root path)) = [] := by
    cases evaluator.tryEvaluate root path <;> rfl
  rw [evaluate_log, warningsOf, List.filter_append, List.filter_eq_self.mpr isWarning_of_walk]
  rw [warningsOf] at noted
  rw [noted, List.append_nil]

theorem notes_of_log (root : Value) (path : Path) : notesOf (evaluator.evaluate root path).2 =
    failureNote path (evaluator.tryEvaluate root path) := by
  have warned : (evaluator.walk root path.segments).2.filter
      (fun record => !(LogEntry.lookup record).isWarning) = [] :=
    List.filter_eq_nil_iff.mpr fun record member => by simp [isWarning_of_walk record member]
  rw [evaluate_log, notesOf, List.filter_append, warned, List.nil_append]
  cases evaluator.tryEvaluate root path <;> rfl

end Walks

/-! ## Two thresholds -/

section Thresholds
variable (objects : Objects) (args : List Value) {low high : Nat}

theorem stepWarning_sublist (le : low ≤ high) (current : Value) (segment : Segment) :
    ((Evaluator.mk objects args high).stepWarning current segment).Sublist
      ((Evaluator.mk objects args low).stepWarning current segment) := by
  rcases stepWarning_cases ⟨objects, args, high⟩ current segment with none |
    ⟨name, slots, values, info, rfl, supplied, typed⟩
  · rw [none]
    exact List.nil_sublist _
  · have few : (Evaluator.mk objects args low).stepWarning current (.method name slots) = _ :=
      stepWarning_typed supplied typed
    rw [stepWarning_typed supplied typed, few]
    split
    · rename_i enough
      have enoughToo : max low 1 ≤
          (accepting ⟨objects, args, low⟩ info name slots values).length :=
        Nat.le_trans (by omega : max low 1 ≤ max high 1) enough
      rw [if_pos enoughToo]
      exact List.Sublist.refl _
    · exact List.nil_sublist _

/-- A walk gives fewer warnings where more overloads are worth one. -/
theorem walk_sublist (le : low ≤ high) (segments : List Segment) (root : Value) :
    ((Evaluator.mk objects args high).walk root segments).2.Sublist
      ((Evaluator.mk objects args low).walk root segments).2 := by
  induction segments generalizing root with
  | nil => exact List.Sublist.refl _
  | cons segment rest ih =>
    have same : (Evaluator.mk objects args high).step root segment =
        (Evaluator.mk objects args low).step root segment := rfl
    have first := stepWarning_sublist objects args le root segment
    rw [Evaluator.walk, Evaluator.walk, same]
    cases (Evaluator.mk objects args low).step root segment with
    | error error => exact first
    | ok value => exact first.append (ih value)

end Thresholds

/-- The number of overloads that is worth a warning has no influence on a result. The
log holds the warnings of the walk, in the order of the path, and behind them a note
if the walk fails. A higher number leaves some of the warnings out and keeps the note. -/
theorem threshold_decides_warnings_only (objects : Objects) (args : List Value) (root : Value)
    (path : Path) :
    (∀ threshold other : Nat, ((Evaluator.mk objects args threshold).evaluate root path).1 =
      ((Evaluator.mk objects args other).evaluate root path).1) ∧
    (∀ threshold : Nat, ∃ positions warnings,
      Chronicle ⟨objects, args, threshold⟩ root path.segments positions warnings ∧
        ((Evaluator.mk objects args threshold).evaluate root path).2 =
          warnings ++
            failureNote path ((Evaluator.mk objects args threshold).tryEvaluate root path)) ∧
    ∀ low high : Nat, low ≤ high →
      (warningsOf ((Evaluator.mk objects args high).evaluate root path).2).Sublist
          (warningsOf ((Evaluator.mk objects args low).evaluate root path).2) ∧
        notesOf ((Evaluator.mk objects args high).evaluate root path).2 =
          notesOf ((Evaluator.mk objects args low).evaluate root path).2 := by
  refine ⟨fun threshold other => ?_, fun threshold => ?_, fun low high le => ?_⟩
  · rw [evaluate_found, evaluate_found]
    rfl
  · obtain ⟨positions, chronicle⟩ : ∃ positions, Chronicle ⟨objects, args, threshold⟩ root
      path.segments positions _ := chronicle_exists path.segments root
    exact ⟨positions, _, chronicle, evaluate_log root path⟩
  · rw [warnings_of_log, warnings_of_log, notes_of_log, notes_of_log]
    exact ⟨walk_sublist objects args le path.segments root, rfl⟩

/-- A call with two overloads, on a path that fails behind it: the call is reported
where two overloads are worth a warning and not where three are, and the failure is
noted in both logs. -/
theorem reported_call_before_failure :
    let low : Evaluator := ⟨tellers teller, [.int 4], 2⟩
    let high : Evaluator := ⟨tellers teller, [.int 4], 3⟩
    let path : Path := ⟨[.method "tell" [0], .field "size"]⟩
    let note : LookupRecord := .unresolved path (.fieldNotFound "String" "size")
    2 ≤ 3 ∧
      (low.evaluate (.object 0) path).2 = [.ambiguous 2 "Teller" "tell", note] ∧
      (high.evaluate (.object 0) path).2 = [note] ∧
      (warningsOf (high.evaluate (.object 0) path).2).Sublist
        (warningsOf (low.evaluate (.object 0) path).2) ∧
      notesOf (high.evaluate (.object 0) path).2 = notesOf (low.evaluate (.object 0) path).2 := by
  intro low high path note
  obtain ⟨fewer, same⟩ := (threshold_decides_warnings_only (tellers teller) [.int 4] (.object 0)
    path).2.2 2 3 (by decide)
  exact ⟨by decide, by rfl, by rfl, fewer, same⟩

end ValuePath.WalkLog
