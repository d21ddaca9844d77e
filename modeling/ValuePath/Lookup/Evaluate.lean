import ValuePath.Lookup.Error
import ValuePath.Members.Matching
import ValuePath.Members.Table
import ValuePath.Path.Segment

/-!
Walking a value along a path. A step reads a field, calls a method or takes an
element; the walk stops at the first step that fails. Beside the result stands
a log: a warning for every call that had several candidates, and a note if the
path did not resolve.
-/
namespace ValuePath

/-- What a walk records. -/
inductive LookupRecord where
  | ambiguous (count : Nat) (typeName method : String)
  | unresolved (path : Path) (error : EvalError)
  deriving DecidableEq

namespace LookupRecord

def message : LookupRecord → String
  | ambiguous count typeName method =>
    toString count ++ " overloads of " ++ typeName ++ "." ++ method ++
      " accept the supplied arguments; using the first"
  | unresolved path error =>
    "path '" ++ path.display ++ "' did not resolve: " ++ error.message

end LookupRecord

/-- What paths are evaluated with: the objects, the arguments that slots refer
to, and the number of candidates from which on a call is worth a warning. -/
structure Evaluator where
  objects : Objects
  args : List Value
  ambiguityThreshold : Nat

namespace Evaluator

/-- The number of candidates that are worth a warning unless told otherwise. -/
def defaultThreshold : Nat := 3

variable (evaluator : Evaluator)

/-- The arguments that the slots refer to, or the first slot without one. -/
def resolveArgs (slots : List UInt64) : Except EvalError (List Value) :=
  slots.mapM fun slot =>
    match evaluator.args[slot.toNat]? with
    | some value => .ok value
    | none => .error (.argumentOutOfRange slot.toNat evaluator.args.length)

/-- The overloads that accept the arguments, in order of registration. -/
def candidates (info : TypeInfo) (name : String) (args : List Value) : List Method :=
  (info.methods name args.length).filter fun method =>
    signatureAccepts evaluator.objects method.params args

/-- Reads a field. The entries of a map are its fields. -/
def readField (current : Value) (name : String) : Except EvalError Value :=
  match current with
  | .map entries =>
    match Entries.find? name entries with
    | some value => .ok value
    | none => .error (.fieldNotFound (current.typeName evaluator.objects) name)
  | _ =>
    match current.typeInfo? evaluator.objects with
    | none => .error (.nullReceiver (Segment.field name).display)
    | some info =>
      match (info.field? name).bind (·.read current) with
      | some value => .ok value
      | none => .error (.fieldNotFound info.name name)

/-- The table, the arguments and the candidates of a call that can be made. -/
def prepareCall (current : Value) (name : String) (slots : List UInt64) :
    Except EvalError (TypeInfo × List Value × List Method) :=
  match evaluator.resolveArgs slots with
  | .error e => .error e
  | .ok args =>
    match current.typeInfo? evaluator.objects with
    | none => .error (.nullReceiver (Segment.method name slots).display)
    | some info => .ok (info, args, evaluator.candidates info name args)

/-- Calls the first overload that accepts the arguments. -/
def callMethod (current : Value) (name : String) (slots : List UInt64) : Except EvalError Value :=
  match evaluator.prepareCall current name slots with
  | .error e => .error e
  | .ok (info, args, []) => .error (.methodNotFound info.name name args.length)
  | .ok (_, args, method :: _) =>
    (method.invoke current args).mapError (.invocation (Segment.method name slots).display)

/-- Takes an element. The index is looked at before the value is. -/
def readIndex (current : Value) (position : Option Int64) : Except EvalError Value :=
  match position with
  | none => .error .missingIndex
  | some position =>
    if position < 0 then .error (.negativeIndex position)
    else
      let index := position.toInt.toNat
      let element (items : List Value) : Except EvalError Value :=
        match items[index]? with
        | some value => .ok value
        | none => .error (.indexOutOfRange index)
      match current with
      | .array items | .list items => element items
      | .object id =>
        match (evaluator.objects id).items with
        | some items => element items
        | none => .error (.notIterable (current.typeName evaluator.objects))
      | .null => .error (.nullReceiver (Segment.index (some position)).display)
      | other => .error (.notIterable (other.typeName evaluator.objects))

/-- One step of a walk. -/
def step (current : Value) : Segment → Except EvalError Value
  | .field name => evaluator.readField current name
  | .method name slots => evaluator.callMethod current name slots
  | .index position => evaluator.readIndex current position

/-- The warning that a step is worth: enough candidates for a call that is
made, whether or not the body then fails. -/
def stepWarning (current : Value) : Segment → List LookupRecord
  | .method name slots =>
    match evaluator.prepareCall current name slots with
    | .ok (info, _, method :: more) =>
      let count := (method :: more).length
      if evaluator.ambiguityThreshold ≤ count then [.ambiguous count info.name name] else []
    | _ => []
  | _ => []

/-- The value that the path leads to, or why the walk stopped. -/
def tryEvaluate (root : Value) (path : Path) : Except EvalError Value :=
  path.segments.foldlM evaluator.step root

/-- The walk with its warnings, in the order of the segments. -/
def walk (current : Value) : List Segment → Except EvalError Value × List LookupRecord
  | [] => (.ok current, [])
  | segment :: rest =>
    let warnings := evaluator.stepWarning current segment
    match evaluator.step current segment with
    | .error e => (.error e, warnings)
    | .ok value =>
      let (result, more) := walk value rest
      (result, warnings ++ more)

/-- The value that the path leads to, if it is not null, and the log. -/
def evaluate (root : Value) (path : Path) : Option Value × List LookupRecord :=
  match evaluator.walk root path.segments with
  | (.ok .null, warnings) => (none, warnings)
  | (.ok value, warnings) => (some value, warnings)
  | (.error e, warnings) => (none, warnings ++ [.unresolved path e])

/-- The result of a walk is that of the bare steps. -/
theorem walk_fst (current : Value) (segments : List Segment) :
    (evaluator.walk current segments).1 = segments.foldlM evaluator.step current := by
  induction segments generalizing current with
  | nil => rfl
  | cons segment rest ih =>
    simp only [walk, List.foldlM_cons]
    cases evaluator.step current segment with
    | error e => rfl
    | ok value => exact ih value

end Evaluator
end ValuePath
