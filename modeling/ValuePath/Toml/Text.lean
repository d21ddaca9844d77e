import ValuePath.Toml.Scalar

/-!
The text between the values of TOML documents, and strings in their four forms.
-/
namespace ValuePath.Toml

open Numeric (readDigits?)

/-- A blank within a line. -/
def isSpace (c : Char) : Bool := c == ' ' || c == '\t'

/-- A character that comments and strings may hold as it is. -/
def isVisible (c : Char) : Bool := c == '\t' || (' ' ≤ c && c.toNat ≠ 0x7F)

/-- Passes over the blanks of a line. -/
def skipSpaces (text : List Char) : List Char := text.dropWhile isSpace

/-- Passes over the end of a line. -/
def skipNewline? : List Char → Option (List Char)
  | '\n' :: rest | '\r' :: '\n' :: rest => some rest
  | _ => none

/-- Passes over a comment, if there is one. -/
def skipComment : List Char → List Char
  | '#' :: rest => rest.dropWhile isVisible
  | text => text

/-- Passes over what may stand behind the contents of a line, and over its end. -/
def skipLineEnd? (text : List Char) : Option (List Char) :=
  match skipComment (skipSpaces text) with
  | [] => some []
  | rest => skipNewline? rest

/-- Passes over blanks, comments and line ends. -/
def skipLines : (fuel : Nat) → List Char → List Char
  | 0, text => text
  | fuel + 1, text =>
    let start := skipSpaces text
    match skipNewline? (skipComment start) with
    | some rest => skipLines fuel rest
    | none => start

/-- Passes over blanks and line ends. -/
def skipGaps : (fuel : Nat) → List Char → List Char
  | 0, text => text
  | fuel + 1, text =>
    let start := skipSpaces text
    match skipNewline? start with
    | some rest => skipGaps fuel rest
    | none => start

/-- The character with a code of this many hexadecimal digits. -/
def takeCode? (width : Nat) (text : List Char) : Option (Char × List Char) := do
  let digits := text.take width
  let code ← if digits.length = width then readDigits? 16 digits else none
  if h : code.isValidChar then some (Char.ofNatAux code h, text.drop width) else none

/-- The character that an escape stands for, behind its backslash. -/
def takeEscape? : List Char → Option (Char × List Char)
  | 'b' :: rest => some ('\u0008', rest)
  | 'f' :: rest => some ('\u000C', rest)
  | 'n' :: rest => some ('\n', rest)
  | 'r' :: rest => some ('\r', rest)
  | 't' :: rest => some ('\t', rest)
  | '"' :: rest => some ('"', rest)
  | '\\' :: rest => some ('\\', rest)
  | 'u' :: rest => takeCode? 4 rest
  | 'U' :: rest => takeCode? 8 rest
  | _ => none

/-- Reads the contents of a string of one line and its closing quote. -/
def readLine? (quote : Char) (escapes : Bool) : (fuel : Nat) → List Char →
    Option (List Char × List Char)
  | 0, _ | _, [] => none
  | fuel + 1, c :: rest =>
    if c = quote then some ([], rest)
    else if escapes && c = '\\' then do
      let (char, rest) ← takeEscape? rest
      let (more, rest) ← readLine? quote escapes fuel rest
      return (char :: more, rest)
    else if isVisible c then do
      let (more, rest) ← readLine? quote escapes fuel rest
      return (c :: more, rest)
    else none

/-- Reads the contents of a string of several lines and its three closing quotes.
One or two quotes may stand anywhere in it, also directly before the closing ones.
A backslash at the end of a line takes the blanks and line ends after it along. -/
def readLines? (quote : Char) (escapes : Bool) : (fuel : Nat) → List Char →
    Option (List Char × List Char)
  | 0, _ | _, [] => none
  | fuel + 1, c :: rest =>
    if c = quote then
      let run := (c :: rest).takeWhile (· = quote)
      let after := rest.dropWhile (· = quote)
      if run.length ≤ 2 then do
        let (more, rest) ← readLines? quote escapes fuel after
        return (run ++ more, rest)
      else if run.length ≤ 5 then some (run.drop 3, after)
      else none
    else if escapes && c = '\\' then
      match skipNewline? (skipSpaces rest) with
      | some next => readLines? quote escapes fuel (skipGaps (next.length + 1) next)
      | none => do
        let (char, rest) ← takeEscape? rest
        let (more, rest) ← readLines? quote escapes fuel rest
        return (char :: more, rest)
    else
      match skipNewline? (c :: rest) with
      | some next => do
        let (more, rest) ← readLines? quote escapes fuel next
        return ('\n' :: more, rest)
      | none =>
        if isVisible c then do
          let (more, rest) ← readLines? quote escapes fuel rest
          return (c :: more, rest)
        else none

/-- Reads a string of one line from its opening quote on. -/
def readString? : List Char → Option (String × List Char)
  | [] => none
  | c :: rest =>
    if c = '"' || c = '\'' then
      (readLine? c (c = '"') (rest.length + 1) rest).map fun (text, rest) =>
        (String.ofList text, rest)
    else none

/-- Reads a string of one or several lines. A line end directly behind the opening
quotes does not count. -/
def readAnyString? : List Char → Option (String × List Char)
  | a :: b :: c :: rest =>
    if (a = '"' || a = '\'') && b = a && c = a then
      let body := (skipNewline? rest).getD rest
      (readLines? a (a = '"') (body.length + 1) body).map fun (text, rest) =>
        (String.ofList text, rest)
    else readString? (a :: b :: c :: rest)
  | text => readString? text

end ValuePath.Toml
