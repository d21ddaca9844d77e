import ValuePath.Members.TypeInfo
import ValuePath.Text.Blank
import ValuePath.Text.Case
import ValuePath.Text.Search

/-!
The members of strings. Positions and lengths count characters.
-/
namespace ValuePath

/-- A count as an int, if it fits. -/
def intOfCount (count : Nat) : Except InvokeError Value :=
  if count < Nat.pow 2 31 then .ok (.int (Int32.ofNat count))
  else .error (.failed (toString count ++ " does not fit in an int"))

namespace StringMembers

/-- The count of characters, which stops at the greatest int. -/
def charCount (text : String) : Int32 := Int32.ofNat (min text.length (Nat.pow 2 31 - 1))

/-- The characters from `first` up to and not including `last`. The length of a text
is known, so they are found from its end, and a long text is not taken apart. -/
def slice (text : String) (first last : Nat) : String :=
  ((text.takeEnd (text.length - first)).take (last - first)).copy

theorem slice_eq {text : String} {first last : Nat} (inside : first ≤ text.length) :
    slice text first last = String.ofList ((text.toList.drop first).take (last - first)) := by
  have passed : text.toList.length - (text.length - first) = first := by
    rw [String.length_toList, Nat.sub_sub_self inside]
  rw [← String.toList_inj, String.toList_ofList, slice, String.Slice.toList_copy_take,
    String.toList_copy_takeEnd, passed]

/-- The characters from `first` up to and not including `last`, both within the text. -/
def charRange (text : String) (first last : Int32) : Except InvokeError Value :=
  let length := charCount text
  if first < 0 ∨ last < first ∨ length < last then
    .error (.failed ("begin " ++ toString first.toInt ++ ", end " ++ toString last.toInt ++
      ", length " ++ toString length.toInt))
  else
    .ok (.string (slice text first.toInt.toNat last.toInt.toNat))

/-- The character at a position. -/
def charAt (text : String) (index : Int32) : Except InvokeError Value :=
  match if index < 0 then none else text.toList[index.toInt.toNat]? with
  | some c => .ok (.char c)
  | none => .error (.failed ("index " ++ toString index.toInt ++ " out of bounds for length " ++
      toString (charCount text).toInt))

/-- The first position at which the needle begins, or -1. -/
def indexOf (text needle : List Char) : Except InvokeError Value :=
  match Text.find? needle text with
  | some position => intOfCount position
  | none => .ok (.int (-1))

/-- Takes empty pieces off the end. -/
def dropEmptyEnd (pieces : List (List Char)) : List (List Char) :=
  (pieces.reverse.dropWhile List.isEmpty).reverse

/-- The pieces between the separators, without empty ones at the end. An empty
separator gives the single characters, and the empty text is one piece. -/
def split (text separator : List Char) : List (List Char) :=
  if text.isEmpty then [[]]
  else if separator.isEmpty then text.map ([·])
  else dropEmptyEnd (Text.pieces separator text)

/-- The text behind a string value. -/
def receiver (value : Value) : Option String := value.asString?

def ofChars (text : List Char) : Value := .string (String.ofList text)

/-- A string argument as characters. -/
def chars (args : List Value) (index : Nat) : Except InvokeError (List Char) :=
  (Arguments.string args index).map String.toList

open Registration in
def registrations : List (Registration String) :=
  [ method "length" [] fun text _ => intOfCount text.length
  , method "isEmpty" [] fun text _ => .ok (.boolean text.isEmpty)
  , method "toUpperCase" [] fun text _ => .ok (ofChars (Text.upperCase text.toList))
  , method "toLowerCase" [] fun text _ => .ok (ofChars (Text.lowerCase text.toList))
  , method "trim" [] fun text _ => .ok (ofChars (Text.trim text.toList))
  , method "substring" [.primitive .int] fun text args => do
      charRange text (← Arguments.int args 0) (charCount text)
  , method "substring" [.primitive .int, .primitive .int] fun text args => do
      let first ← Arguments.int args 0
      let last ← Arguments.int args 1
      charRange text first last
  , method "charAt" [.primitive .int] fun text args => do
      charAt text (← Arguments.int args 0)
  , method "indexOf" [.string] fun text args => do
      indexOf text.toList (← chars args 0)
  , method "contains" [.string] fun text args => do
      return .boolean (Text.contains (← chars args 0) text.toList)
  , method "startsWith" [.string] fun text args => do
      return .boolean ((← chars args 0).isPrefixOf text.toList)
  , method "endsWith" [.string] fun text args => do
      return .boolean ((← chars args 0).isSuffixOf text.toList)
  , method "concat" [.string] fun text args => do
      return ofChars (text.toList ++ (← chars args 0))
  , method "replace" [.string, .string] fun text args => do
      let pattern ← chars args 0
      let replacement ← chars args 1
      return ofChars (Text.replace pattern replacement text.toList)
  , method "split" [.string] fun text args => do
      return .array ((split text.toList (← chars args 0)).map ofChars)
  , method "equals" [.object] fun text args => do
      let other ← Arguments.get args 0
      return .boolean (other.asString? == some text)
  , method "toString" [] fun text _ => .ok (.string text) ]

/-- The member table of strings. -/
def table : TypeInfo := TypeInfo.build "String" receiver registrations

end StringMembers
end ValuePath
