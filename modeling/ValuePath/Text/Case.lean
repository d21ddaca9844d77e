import ValuePath.Text.CaseTable

/-!
Full case conversion of text. One letter may become several, and the lower case
of a capital sigma depends on whether it ends a word.
-/
namespace ValuePath.Text

namespace CaseSpan

/-- Whether the run holds the code point. -/
def holds (span : CaseSpan) (code : Nat) : Bool :=
  span.first ≤ code && code ≤ span.last && (code - span.first) % span.step == 0

end CaseSpan

/-- The letter at the distance that its run gives, or the letter itself. -/
def shiftCase (spans : List CaseSpan) (c : Char) : Char :=
  match spans.find? (·.holds c.toNat) with
  | some span => Char.ofNat (c.toNat + span.shift).toNat
  | none => c

/-- The upper case of one letter. -/
def upperOf (c : Char) : List Char :=
  match upperExpansions.lookup c.toNat with
  | some codes => codes.map Char.ofNat
  | none => [shiftCase upperSpans c]

/-- The upper case of a text. -/
def upperCase (text : List Char) : List Char := text.flatMap upperOf

def inRanges (ranges : List (Nat × Nat)) (c : Char) : Bool :=
  ranges.any fun (first, last) => first ≤ c.toNat && c.toNat ≤ last

/-- Whether the first character that counts is a letter with case. -/
def casedFirst (text : List Char) : Bool :=
  match text.dropWhile (inRanges caseIgnorableRanges) with
  | c :: _ => inRanges casedRanges c
  | [] => false

/-- The lower case of a letter other than a capital sigma. The dotted capital
I keeps its dot as a character of its own. -/
def lowerOf (c : Char) : List Char :=
  if c = 'İ' then ['i', '\u0307'] else [shiftCase lowerSpans c]

/-- The lower case of the rest of a text, given what comes before, nearest
character first. A sigma takes its final form after a cased letter and not
before one. -/
def lowerCaseAfter : List Char → List Char → List Char
  | _, [] => []
  | before, c :: rest =>
    let lower :=
      if c = 'Σ' then [if casedFirst before && !casedFirst rest then 'ς' else 'σ'] else lowerOf c
    lower ++ lowerCaseAfter (c :: before) rest

/-- The lower case of a text. -/
def lowerCase (text : List Char) : List Char := lowerCaseAfter [] text

end ValuePath.Text
