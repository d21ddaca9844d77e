import ValuePath.Lookup.Evaluate
import ValuePath.Lookup.Cast
import ValuePath.Path.Parser

/-!
Lookups that do not fail: a path that does not resolve, or leads to null, has
no result.
-/
namespace ValuePath

/-- A path as it may be given. -/
inductive PathForm where
  /-- No path, which is the empty one. -/
  | absent
  | text (path : String)
  /-- Tokens, which are not cut at dots. -/
  | split (tokens : List String)
  | parsed (path : Path)

/-- The path behind a form. -/
def PathForm.path : PathForm → Path
  | absent => Path.empty
  | text path => Path.parse path
  | split tokens => Path.ofTokens (tokens.map String.toList)
  | parsed path => path

variable (objects : Objects) (root : Value) (path : PathForm) (args : List Value)

/-- The value that the path leads to, unless it is null. -/
def get : Option Value :=
  ((Evaluator.mk objects args Evaluator.defaultThreshold).evaluate root path.path).1

/-- The value that the path leads to, or the default. -/
def getOr (default : Value) : Value := (get objects root path args).getD default

/-- The converted value that the path leads to. A path without a result has
none of any type; a result of the wrong type is an error. -/
def getAs (target : CastTarget) : Except CastError (Option Value) :=
  match get objects root path args with
  | none => .ok none
  | some value => (value.cast objects target).map some

end ValuePath
