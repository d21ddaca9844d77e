import ValuePath.Members.Arguments

/-!
Why a path does not resolve, and why a resolved value does not convert.
-/
namespace ValuePath

inductive EvalError where
  /-- The segment was applied to null. -/
  | nullReceiver (segment : String)
  | fieldNotFound (typeName field : String)
  | methodNotFound (typeName name : String) (arity : Nat)
  /-- A slot has no argument. -/
  | argumentOutOfRange (slot supplied : Nat)
  /-- The body of the chosen method failed. -/
  | invocation (method : String) (source : InvokeError)
  | negativeIndex (index : Int64)
  /-- The brackets held no usable number. -/
  | missingIndex
  | indexOutOfRange (index : Nat)
  | notIterable (typeName : String)
  deriving DecidableEq

namespace EvalError

def message : EvalError → String
  | nullReceiver segment => "cannot apply '" ++ segment ++ "' to null"
  | fieldNotFound typeName field => typeName ++ " has no field '" ++ field ++ "'"
  | methodNotFound typeName name arity =>
    typeName ++ " has no method '" ++ name ++ "' accepting the " ++ toString arity ++
      " supplied argument(s)"
  | argumentOutOfRange slot supplied =>
    "placeholder \x7b" ++ toString slot ++ "\x7d is out of range: " ++ toString supplied ++
      " argument(s) supplied"
  | invocation method source => "'" ++ method ++ "' failed: " ++ source.message
  | negativeIndex index => "negative index " ++ toString index.toInt
  | missingIndex => "index has no usable digits"
  | indexOutOfRange index => "index " ++ toString index ++ " is out of range"
  | notIterable typeName => typeName ++ " cannot be indexed"

end EvalError

/-- A resolved value is not of the requested type. -/
structure CastError where
  expected : String
  found : String
  deriving DecidableEq

namespace CastError

def message (error : CastError) : String :=
  "cannot cast " ++ error.found ++ " to " ++ error.expected

end CastError
end ValuePath
