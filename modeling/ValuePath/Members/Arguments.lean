import ValuePath.Value.Basic

/-!
Why a call fails, and typed access to the arguments of a call.
-/
namespace ValuePath

/-- Why the body of a method gave no result. -/
inductive InvokeError where
  /-- The receiver is not of the type that the method was registered for. -/
  | receiver (expected : String)
  | missingArgument (index : Nat)
  | argumentType (index : Nat) (expected : String)
  /-- The body itself failed, for the reason that it states. -/
  | failed (reason : String)
  deriving DecidableEq

namespace InvokeError

def message : InvokeError → String
  | receiver expected => "receiver is not a " ++ expected
  | missingArgument index => "argument " ++ toString index ++ " is missing"
  | argumentType index expected => "argument " ++ toString index ++ " is not a " ++ expected
  | failed reason => reason

end InvokeError

namespace Arguments

/-- The argument at a position. -/
def get (args : List Value) (index : Nat) : Except InvokeError Value :=
  match args[index]? with
  | some value => .ok value
  | none => .error (.missingArgument index)

/-- The argument at a position, which has to be an int. -/
def int (args : List Value) (index : Nat) : Except InvokeError Int32 :=
  match get args index with
  | .ok (.int n) => .ok n
  | .ok _ => .error (.argumentType index "int")
  | .error e => .error e

/-- The argument at a position, which has to be a long. -/
def long (args : List Value) (index : Nat) : Except InvokeError Int64 :=
  match get args index with
  | .ok (.long n) => .ok n
  | .ok _ => .error (.argumentType index "long")
  | .error e => .error e

/-- The argument at a position, which has to be a string. -/
def string (args : List Value) (index : Nat) : Except InvokeError String :=
  match get args index with
  | .ok (.string s) => .ok s
  | .ok _ => .error (.argumentType index "String")
  | .error e => .error e

end Arguments
end ValuePath
