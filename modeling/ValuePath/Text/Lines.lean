/-!
Physical lines: a line ends at a line feed, which takes a carriage return
before it along.
-/
namespace ValuePath.Text

/-- The line without a carriage return at its end. -/
def dropReturn (line : List Char) : List Char :=
  if line.getLast? = some '\r' then line.dropLast else line

/-- The lines of a text. A line feed at the very end opens no further line,
and the last line keeps a carriage return that no line feed follows. -/
def lines (text : List Char) : List (List Char) :=
  let parts := text.splitOn '\n'
  let last := (parts.getLast?).getD []
  parts.dropLast.map dropReturn ++ (if last.isEmpty then [] else [last])

end ValuePath.Text
