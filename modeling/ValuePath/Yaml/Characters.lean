/-!
The classes of characters that YAML text is made of.
-/
namespace ValuePath.Yaml

/-- A character that ends a line. -/
def isBreak (c : Char) : Bool :=
  c == '\n' || c == '\r' || c == '\u0085' || c == '\u2028' || c == '\u2029'

/-- A blank within a line. -/
def isSpaceOrTab (c : Char) : Bool := c == ' ' || c == '\t'

/-- A character that parts words: a blank or the end of a line. -/
def isGap (c : Char) : Bool := isSpaceOrTab c || isBreak c

/-- Whether a word ends here, at a blank, at the end of a line or of the text. -/
def atGap : List Char → Bool
  | [] => true
  | c :: _ => isGap c

/-- Whether a line ends here. -/
def atLineEnd : List Char → Bool
  | [] => true
  | c :: _ => isBreak c

def isDecimal (c : Char) : Bool := '0' ≤ c && c ≤ '9'

/-- A character of the names of anchors and tag handles. -/
def isWordChar (c : Char) : Bool :=
  isDecimal c || ('a' ≤ c && c ≤ 'z') || ('A' ≤ c && c ≤ 'Z') || c == '_' || c == '-'

/-- A character that a text may hold anywhere. -/
def isAllowed (c : Char) : Bool :=
  let code := c.toNat
  code == 0x09 || code == 0x0A || code == 0x0D || (0x20 ≤ code && code ≤ 0x7E) || code == 0x85 ||
    (0xA0 ≤ code && code ≤ 0xD7FF) || (0xE000 ≤ code && code ≤ 0xFFFD) || 0x10000 ≤ code

/-- A character that is written as it is outside of double quotes. Tabs, the
byte order mark and controls are not, the line feed excepted. -/
def isPrintable (c : Char) : Bool :=
  let code := c.toNat
  code == 0x0A || (0x20 ≤ code && code ≤ 0x7E) || (0xA0 ≤ code && code ≤ 0xD7FF) ||
    (0xE000 ≤ code && code ≤ 0xFFFD && code != 0xFEFF) || 0x10000 ≤ code

/-- A character that says how what follows it is to be read. It begins no plain
scalar, unless it is a dash, a question mark or a colon before a word. -/
def isIndicator (c : Char) : Bool :=
  ['-', '?', ':', ',', '[', ']', '\x7b', '\x7d', '#', '&', '*', '!', '|', '>', '\'', '"', '%', '@',
    '\x60'].contains c

/-- The byte order mark. -/
def byteOrderMark : Char := '\uFEFF'

/-- The size of the pieces in which a text is taken, in bytes. -/
def pieceSize : Nat := 16384

/-- The index in bytes up to which a text can be read, if it holds a character that
is not allowed: a piece with such a character cannot be read at all. A character
that does not fit into a piece begins the next one. The piece at hand began at
`start` and holds `size` bytes so far. -/
def readableEnd? (start size : Nat) : List Char → Option Nat
  | [] => none
  | c :: rest =>
    if pieceSize < size + c.utf8Size then
      if isAllowed c then readableEnd? (start + size) c.utf8Size rest else some (start + size)
    else if isAllowed c then readableEnd? start (size + c.utf8Size) rest
    else some start

end ValuePath.Yaml
