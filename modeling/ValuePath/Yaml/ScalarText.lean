import ValuePath.Yaml.Characters

/-!
Scalars as text. A scalar that cannot be written in the form that is asked for
takes quotes, and double quotes where single ones will not do.
-/
namespace ValuePath.Yaml

/-- The forms of scalars. -/
inductive Form where
  | plain
  | single
  | double
  /-- Lines of their own under a bar. -/
  | literal
  deriving DecidableEq

namespace Form

/-- Whether a plain scalar would be read as something else because of a
character in it, the one before it being given. -/
def misleads : (previous : Option Char) → List Char → Bool
  | _, [] => false
  | none, c :: rest =>
    (isIndicator c && (!(['-', '?', ':'].contains c) || atGap rest)) || misleads (some c) rest
  | some before, c :: rest =>
    (c == ':' && atGap rest) || (c == '#' && isGap before) || misleads (some c) rest

/-- Whether a character of the first class stands directly before one of the second. -/
def meet (first second : Char → Bool) (text : List Char) : Bool :=
  (text.zip text.tail).any fun (a, b) => first a && second b

def isSpace (c : Char) : Bool := c == ' '

/-- Whether a text can be written only with escapes. -/
def needsEscapes (text : List Char) : Bool :=
  text.any (!isPrintable ·) || meet isSpace isBreak text

def allowsPlain (text : List Char) : Bool :=
  let marker := text.take 3
  !(marker == ['-', '-', '-'] || marker == ['.', '.', '.'] || misleads none text ||
    needsEscapes text || text.any isBreak || text.head?.any isSpace || text.getLast?.any isSpace)

def allowsSingle (text : List Char) : Bool := !(needsEscapes text || meet isBreak isSpace text)

def allowsLiteral (text : List Char) : Bool :=
  !(text.isEmpty || needsEscapes text || text.getLast?.any isSpace)

/-- The form that a text takes if this one is asked for. -/
def settle (text : List Char) : Form → Form
  | plain => if allowsPlain text then plain else if allowsSingle text then single else double
  | single => if allowsSingle text then single else double
  | double => double
  | literal => if allowsLiteral text then literal else double

/-- Hexadecimal digits behind a letter for their count. -/
def numericEscape (letter : Char) (width code : Nat) : List Char :=
  let digits := (Nat.toDigits 16 code).map Char.toUpper
  '\\' :: letter :: (List.replicate (width - digits.length) '0' ++ digits)

/-- One character between double quotes. -/
def escape (c : Char) : List Char :=
  if isPrintable c && !isBreak c && c != '"' && c != '\\' then [c]
  else
    match c.toNat with
    | 0x00 => ['\\', '0']
    | 0x07 => ['\\', 'a']
    | 0x08 => ['\\', 'b']
    | 0x09 => ['\\', 't']
    | 0x0A => ['\\', 'n']
    | 0x0B => ['\\', 'v']
    | 0x0C => ['\\', 'f']
    | 0x0D => ['\\', 'r']
    | 0x1B => ['\\', 'e']
    | 0x22 => ['\\', '"']
    | 0x5C => ['\\', '\\']
    | 0x85 => ['\\', 'N']
    | 0x2028 => ['\\', 'L']
    | 0x2029 => ['\\', 'P']
    | code =>
      if code ≤ 0xFF then numericEscape 'x' 2 code
      else if code ≤ 0xFFFF then numericEscape 'u' 4 code
      else numericEscape 'U' 8 code

def spaces (count : Nat) : List Char := List.replicate count ' '

/-- The characters between single quotes. The first line feed of several line
ends is doubled, and a line is indented. -/
def singleBody (indent : Nat) : (broken : Bool) → List Char → List Char
  | broken, [] => if broken then spaces indent else []
  | broken, c :: rest =>
    if isBreak c then
      (if !broken && c == '\n' then ['\n', c] else [c]) ++ singleBody indent true rest
    else
      (if broken then spaces indent else []) ++ (if c == '\'' then [c, c] else [c]) ++
        singleBody indent false rest

/-- The lines of a block. A line without characters is not indented. -/
def blockBody (indent : Nat) : (broken : Bool) → List Char → List Char
  | _, [] => []
  | broken, c :: rest =>
    if isBreak c then c :: blockBody indent true rest
    else (if broken then spaces indent else []) ++ c :: blockBody indent false rest

/-- What follows the bar of a block: the indentation where it would not be seen,
and what is meant to happen with the line ends at its end. -/
def blockHints (text : List Char) : List Char :=
  let indentation := if text.head?.any fun c => isSpace c || isBreak c then ['2'] else []
  let ending := match text.reverse with
    | [] => ['-']
    | [last] => if isBreak last then ['+'] else ['-']
    | last :: before :: _ => if !isBreak last then ['-'] else if isBreak before then ['+'] else []
  indentation ++ ending

/-- The text of a scalar in a form, its further lines indented. -/
def write (indent : Nat) (text : List Char) : Form → List Char
  | plain => text
  | single => '\'' :: (singleBody indent false text ++ ['\''])
  | double => '"' :: (text.flatMap escape ++ ['"'])
  | literal => '|' :: (blockHints text ++ '\n' :: blockBody indent true text)

end Form
end ValuePath.Yaml
