import ValuePath.Toml.Tree
import ValuePath.Numeric.Decimal

/-!
TOML values of a single word: booleans, numbers, dates and times.
-/
namespace ValuePath.Toml

open Numeric (Decimal isDecimalDigit readDigits? decimalValue)

/-- A character that words are made of. -/
def isWordChar (c : Char) : Bool :=
  isDecimalDigit c || ('a' ≤ c && c ≤ 'z') || ('A' ≤ c && c ≤ 'Z') ||
    ['+', '-', '_', '.', ':'].contains c

/-- Digits without the underscores among them, each of which stands between two digits. -/
def joinDigits? (isDigit : Char → Bool) : List Char → Option (List Char)
  | [] => none
  | [c] => if isDigit c then some [c] else none
  | c :: '_' :: rest => if isDigit c then (joinDigits? isDigit rest).map (c :: ·) else none
  | c :: rest => if isDigit c then (joinDigits? isDigit rest).map (c :: ·) else none

/-- The sign in front of a number, and what follows it. -/
def splitSign : List Char → Bool × List Char
  | '-' :: rest => (true, rest)
  | '+' :: rest => (false, rest)
  | rest => (false, rest)

/-- The digits of a whole number, which begin with a zero only if that is all. -/
def wholeDigits? (text : List Char) : Option (List Char) :=
  (joinDigits? isDecimalDigit text).filter fun digits =>
    text.length = 1 || digits.head? != some '0'

def isBaseDigit (base : Nat) (c : Char) : Bool := (Numeric.digitValue? base c).isSome

/-- An integer in a base that is not ten. -/
def readBased? (base : Nat) (text : List Char) : Option Int :=
  ((joinDigits? (isBaseDigit base) text).bind (readDigits? base)).map Int.ofNat

/-- The integer that a word spells, if it has at most 64 bits. -/
def readInteger? (word : List Char) : Option Int64 :=
  let value? : Option Int :=
    match word with
    | '0' :: 'x' :: rest => readBased? 16 rest
    | '0' :: 'o' :: rest => readBased? 8 rest
    | '0' :: 'b' :: rest => readBased? 2 rest
    | _ =>
      let (negative, rest) := splitSign word
      (wholeDigits? rest).map fun digits =>
        let magnitude : Int := decimalValue digits
        if negative then -magnitude else magnitude
  (value?.filter fun n => Int64.minValue.toInt ≤ n && n ≤ Int64.maxValue.toInt).map Int64.ofInt

/-- The digits of an exponent behind its letter, with their sign. -/
def exponentText? : List Char → Option (List Char)
  | '-' :: rest => (joinDigits? isDecimalDigit rest).map ('-' :: ·)
  | '+' :: rest => joinDigits? isDecimalDigit rest
  | rest => joinDigits? isDecimalDigit rest

/-- The digits of a number with a fraction or an exponent. -/
def floatText? (text : List Char) : Option (List Char) := do
  let isE (c : Char) : Bool := c == 'e' || c == 'E'
  let mantissa := text.takeWhile (!isE ·)
  let exponent ← match text.dropWhile (!isE ·) with
    | [] => some []
    | _ :: rest => (exponentText? rest).map ('e' :: ·)
  let whole ← wholeDigits? (mantissa.takeWhile (· != '.'))
  let fraction ← match mantissa.dropWhile (· != '.') with
    | [] => some []
    | _ :: rest => (joinDigits? isDecimalDigit rest).map ('.' :: ·)
  if exponent.isEmpty && fraction.isEmpty then none else some (whole ++ fraction ++ exponent)

/-- The floating-point number that a word spells. A positive decimal beyond the
range of numbers is none. -/
def readFloat? (word : List Char) : Option Numeric.Binary64 :=
  let (negative, rest) := splitSign word
  if rest = ['i', 'n', 'f'] then some (Numeric.Binary64.ofDatum (.infinite negative))
  else if rest = ['n', 'a', 'n'] then some Numeric.Binary64.nan
  else
    (((floatText? rest).bind Decimal.read?).map (Decimal.toBinary64 negative)).filter fun x =>
      negative || x.isFinite

/-- Takes a number of this many digits off the front, between two bounds. -/
def takeField? (width least greatest : Nat) (text : List Char) :
    Option (Nat × List Char) := do
  let digits := text.take width
  let n ← if digits.length = width then readDigits? 10 digits else none
  if least ≤ n ∧ n ≤ greatest then some (n, text.drop width) else none

/-- Takes this character off the front. -/
def takeChar? (c : Char) : List Char → Option (List Char)
  | first :: rest => if first = c then some rest else none
  | [] => none

/-- The count of days of a month. -/
def monthDays (year month : Nat) : Nat :=
  if month = 2 then
    if year % 4 = 0 && (year % 100 ≠ 0 || year % 400 = 0) then 29 else 28
  else if [4, 6, 9, 11].contains month then 30 else 31

/-- Passes over a date. -/
def skipDate? (text : List Char) : Option (List Char) := do
  let (year, rest) ← takeField? 4 0 9999 text
  let (month, rest) ← takeField? 2 1 12 (← takeChar? '-' rest)
  let (_, rest) ← takeField? 2 1 (monthDays year month) (← takeChar? '-' rest)
  return rest

/-- Passes over a time, which may have a leap second and a fraction. -/
def skipTime? (text : List Char) : Option (List Char) := do
  let (_, rest) ← takeField? 2 0 23 text
  let (_, rest) ← takeField? 2 0 59 (← takeChar? ':' rest)
  let (_, rest) ← takeField? 2 0 60 (← takeChar? ':' rest)
  match rest with
  | '.' :: fraction =>
    if fraction.head?.any isDecimalDigit then some (fraction.dropWhile isDecimalDigit) else none
  | _ => some rest

/-- Whether a text is an offset from universal time, or nothing. -/
def isOffset : List Char → Bool
  | [] | ['Z'] | ['z'] => true
  | sign :: text => (sign == '+' || sign == '-') && (do
      let (_, rest) ← takeField? 2 0 23 text
      let (_, rest) ← takeField? 2 0 59 (← takeChar? ':' rest)
      return rest) == some []

/-- Whether a text is a date, a time, or both with perhaps an offset. -/
def isDateTime (text : List Char) : Bool :=
  skipTime? text == some [] ||
    match skipDate? text with
    | some [] => true
    | some (separator :: rest) =>
      ['T', 't', ' '].contains separator && (skipTime? rest).any isOffset
    | none => false

/-- Whether a time begins here, behind the date before it. -/
def beginsTime : List Char → Bool
  | ' ' :: a :: b :: ':' :: _ => isDecimalDigit a && isDecimalDigit b
  | _ => false

/-- Takes a word off the front; a date with a time behind a blank is one word. -/
def takeWord (text : List Char) : List Char × List Char :=
  let word := text.takeWhile isWordChar
  let rest := text.dropWhile isWordChar
  if skipDate? word == some [] && beginsTime rest then
    (word ++ ' ' :: rest.tail.takeWhile isWordChar, rest.tail.dropWhile isWordChar)
  else (word, rest)

/-- The value that a word spells. -/
def ofWord? (word : List Char) : Option Toml :=
  if word = ['t', 'r', 'u', 'e'] then some (boolean true)
  else if word = ['f', 'a', 'l', 's', 'e'] then some (boolean false)
  else if isDateTime word then some (dateTime (String.ofList word))
  else
    match readInteger? word with
    | some n => some (integer n)
    | none => (readFloat? word).map float

end ValuePath.Toml
