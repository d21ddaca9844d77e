import ValuePath.Value.Basic
import ValuePath.Numeric.Layout

/-!
The plain text of values. Strings stand for themselves, without quotes.
-/
namespace ValuePath.Value

open Numeric (Layout Format)

/-- Numbers keep at least one decimal, and have an exponent below a ten
thousandth and from ten to the sixteenth on. -/
def displayLayout : Layout where
  positionalFrom := -4
  positionalTo := 15
  exponentPlus := false
  tie := .up
  nan := "NaN"
  infinity := "inf"
  negativeInfinity := "-inf"

/-- Parts with a comma and a blank between them. -/
def commaSeparated (parts : List String) : String := String.intercalate ", " parts

mutual
/-- The text of a value, given the texts of objects. -/
def display (objectText : ObjectId → String) : Value → String
  | null => "null"
  | boolean value => if value then "true" else "false"
  | byte value => toString value.toInt
  | char value => String.singleton value
  | short value => toString value.toInt
  | int value => toString value.toInt
  | long value => toString value.toInt
  | float value => displayLayout.write .single value.datum
  | double value => displayLayout.write .double value.datum
  | string value => value
  | array items | list items => "[" ++ commaSeparated (displayItems objectText items) ++ "]"
  | map entries => "\x7b" ++ commaSeparated (displayEntries objectText entries) ++ "\x7d"
  | object id => objectText id

def displayItems (objectText : ObjectId → String) : List Value → List String
  | [] => []
  | item :: rest => display objectText item :: displayItems objectText rest

def displayEntries (objectText : ObjectId → String) : List (String × Value) → List String
  | [] => []
  | (key, value) :: rest =>
    (key ++ "=" ++ display objectText value) :: displayEntries objectText rest
end

end ValuePath.Value
