import ValuePath.Text.Case
import ValuePath.Text.HiddenTable

/-!
Names in double quotes, with escapes for what does not show by itself: quotes
and backslashes, controls, invisible characters, and marks that would combine
with the quote before them.
-/
namespace ValuePath.Text

/-- What does not show by itself: controls and the characters of the table. -/
def isHidden (c : Char) : Bool :=
  c.toNat < 0x20 || (0x7F ≤ c.toNat && inRanges hiddenRanges c)

/-- One character between the quotes. -/
def quoteChar (c : Char) : List Char :=
  if c = '"' then ['\\', '"']
  else if c = '\\' then ['\\', '\\']
  else if c = '\n' then ['\\', 'n']
  else if c = '\r' then ['\\', 'r']
  else if c = '\t' then ['\\', 't']
  else if c = '\u0000' then ['\\', '0']
  else if isHidden c then ['\\', 'u', '{'] ++ Nat.toDigits 16 c.toNat ++ ['}']
  else [c]

/-- A name in quotes. -/
def quoted (name : String) : String :=
  String.ofList ('"' :: (name.toList.flatMap quoteChar ++ ['"']))

end ValuePath.Text
