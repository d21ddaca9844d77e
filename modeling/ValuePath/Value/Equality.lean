import ValuePath.Value.Basic

/-!
Equality of values. Numbers of one kind compare as numbers, so that nothing
equals what is not a number; maps compare without regard to order; objects
compare by identity.
-/
namespace ValuePath.Value

mutual
/-- Whether two values are equal. -/
def equals : Value → Value → Bool
  | null, null => true
  | boolean a, boolean b => a == b
  | byte a, byte b => a == b
  | char a, char b => a == b
  | short a, short b => a == b
  | int a, int b => a == b
  | long a, long b => a == b
  | float a, float b => a.numericEq b
  | double a, double b => a.numericEq b
  | string a, string b => a == b
  | array a, array b => equalItems a b
  | list a, list b => equalItems a b
  | map a, map b => a.length == b.length && equalEntries a b
  | object a, object b => a == b
  | _, _ => false

/-- Whether two sequences have equal items at equal positions. -/
def equalItems : List Value → List Value → Bool
  | [], [] => true
  | a :: as, b :: bs => equals a b && equalItems as bs
  | _, _ => false

/-- Whether every entry has an equal one under its key among the others. -/
def equalEntries : List (String × Value) → List (String × Value) → Bool
  | [], _ => true
  | (key, value) :: rest, others =>
    (match Entries.find? key others with
      | some other => equals value other
      | none => false) && equalEntries rest others
end

end ValuePath.Value
