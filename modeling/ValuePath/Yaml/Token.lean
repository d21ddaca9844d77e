import ValuePath.Yaml.TagText

/-!
The tokens of a YAML text, and the log in which they are collected. The log knows
how many tokens it holds: tokens are put in behind a number of others.
-/
namespace ValuePath.Yaml

inductive Token where
  | streamEnd
  | directive (directive : Directive)
  | documentStart
  | documentEnd
  | blockSequenceStart
  | blockMappingStart
  | blockEnd
  | flowSequenceStart
  | flowSequenceEnd
  | flowMappingStart
  | flowMappingEnd
  | blockEntry
  | flowEntry
  | key
  | value
  | alias (name : String)
  | anchor (name : String)
  | tag (text : TagText)
  | scalar (plain : Bool) (text : String)
  /-- What follows breaks the rules. -/
  | broken
  deriving DecidableEq

/-- Tokens in the order of the text, the last one first. -/
structure TokenLog where
  latest : List Token
  size : Nat
  size_eq : size = latest.length

namespace TokenLog

def empty : TokenLog := ⟨[], 0, rfl⟩

def toList (log : TokenLog) : List Token := log.latest.reverse

/-- Adds a token at the end. -/
def push (log : TokenLog) (token : Token) : TokenLog where
  latest := token :: log.latest
  size := log.size + 1
  size_eq := by simp [log.size_eq]

/-- Puts a token behind this many others. -/
def insertAt (log : TokenLog) (position : Nat) (token : Token) : TokenLog where
  latest := log.latest.take (log.size - position) ++
    token :: log.latest.drop (log.size - position)
  size := log.size + 1
  size_eq := by
    have size_eq := log.size_eq
    simp only [List.length_append, List.length_cons, List.length_take, List.length_drop]
    omega

theorem toList_empty : empty.toList = [] := rfl

theorem toList_push (log : TokenLog) (token : Token) :
    (log.push token).toList = log.toList ++ [token] := by
  simp [push, toList]

/-- An insertion leaves the order of all other tokens as it is. -/
theorem toList_insertAt (log : TokenLog) (position : Nat) (token : Token) :
    (log.insertAt position token).toList =
      log.toList.take position ++ token :: log.toList.drop position := by
  have size_eq := log.size_eq
  simp only [insertAt, toList, List.reverse_append, List.reverse_cons, List.append_assoc,
    List.singleton_append, List.take_reverse, List.drop_reverse]
  rw [← size_eq]

end TokenLog
end ValuePath.Yaml
