import Mathlib.Data.List.Forall2
import ValuePath.Document.Load
import ValuePath.Proofs.StoredMembers

/-! The ways on which the text of a document comes in: from a file or from input, as
it is or compressed. Which way it takes is seen from the end of a name or from two
bytes that no text begins with, and all ways lead to the same text, as long as what
is compressed is one member. Of several members only the first one is read. -/
namespace ValuePath.InputRoutes
open Document Gzip GzipMembers StoredMembers

/-! ## Names -/

/-- What stands behind the last slash of a name. -/
def lastStep (name : List Char) : List Char := ((name.splitOn '/').getLast?).getD []

/-- The name of a file that is not compressed: something stands behind its last
slash, and the file is not named by an extension of compressed files. -/
structure PlainName (name : List Char) : Prop where
  named : lastStep name ≠ []
  uncompressed : ¬ ".gz".toList <:+ baseName name

/-- What is written behind a name belongs to its last step. -/
theorem steps_of_name (name : List Char) : ∃ steps, ∀ more, '/' ∉ more →
    (name ++ more).splitOn '/' = steps ++ [lastStep name ++ more] := by
  by_cases nested : '/' ∈ name
  · obtain ⟨back, front, written, single⟩ :=
      List.eq_append_cons_of_mem (List.mem_reverse.mpr nested)
    have parts : name = front.reverse ++ '/' :: back.reverse := by
      rw [← List.reverse_reverse name, written]
      simp
    have cut (more : List Char) (unslashed : '/' ∉ more) : (name ++ more).splitOn '/' =
        front.reverse.splitOn '/' ++ [back.reverse ++ more] := by
      have behind : '/' ∉ back.reverse ++ more := by simp [single, unslashed]
      rw [parts, List.append_assoc, List.cons_append, List.splitOn_append_cons_self,
        List.splitOn_eq_singleton behind]
    have last : lastStep name = back.reverse := by
      have whole := cut [] List.not_mem_nil
      rw [List.append_nil, List.append_nil] at whole
      rw [lastStep, whole, List.getLast?_concat]
      rfl
    exact ⟨_, fun more unslashed => by rw [cut more unslashed, last]⟩
  · have last : lastStep name = name := by
      rw [lastStep, List.splitOn_eq_singleton nested]
      rfl
    refine ⟨[], fun more unslashed => ?_⟩
    rw [last, List.splitOn_eq_singleton (by simp [nested, unslashed])]
    rfl

/-- An extension belongs to the name without directories. -/
theorem baseName_extended (name : List Char) :
    baseName (name ++ ".gz".toList) = lastStep name ++ ".gz".toList := by
  obtain ⟨steps, split⟩ := steps_of_name name
  have counts : (!((lastStep name ++ ".gz".toList).isEmpty ||
      lastStep name ++ ".gz".toList == ['.'])) = true := by
    cases lastStep name with
    | nil => decide
    | cons c rest => cases rest <;> simp
  rw [baseName, split _ (by decide), List.filter_append, List.filter_cons, if_pos counts,
    List.filter_nil, List.getLast?_concat]
  rfl

theorem reverse_extended (name : List Char) :
    (name ++ ".gz".toList).reverse = 'z' :: 'g' :: '.' :: name.reverse := by
  rw [List.reverse_append]
  rfl

/-- A name is that of a compressed file once it has the extension. -/
theorem compressed_extended {name : List Char} (named : lastStep name ≠ []) :
    isCompressedName (name ++ ".gz".toList) = true := by
  rw [isCompressedName, baseName_extended, reverse_extended]
  cases shape : (lastStep name).reverse with
  | nil => exact absurd (List.reverse_eq_nil_iff.mp shape) named
  | cons c rest => rfl

theorem not_compressed {name : List Char} (plain : PlainName name) :
    isCompressedName name = false := by
  unfold isCompressedName
  split
  · rename_i c rest written
    refine absurd ?_ plain.uncompressed
    refine ⟨(c :: rest).reverse, ?_⟩
    rw [← List.reverse_reverse (baseName name), written]
    simp
  · rfl

/-- Whether a name says that its file holds lines. -/
def NamesLines (name : List Char) : Prop :=
  ".jsonl".toList <:+ name ∨ ".ndjson".toList <:+ name

instance (name : List Char) : Decidable (NamesLines name) := inferInstanceAs (Decidable (_ ∨ _))

theorem namesLines_iff (name : List Char) :
    (".jsonl".toList.isSuffixOf name || ".ndjson".toList.isSuffixOf name) =
      decide (NamesLines name) := by
  rw [Bool.eq_iff_iff, decide_eq_true_iff, NamesLines, Bool.or_eq_true,
    List.isSuffixOf_iff_suffix, List.isSuffixOf_iff_suffix]

theorem lines_extended (name : List Char) :
    isLinesName (name ++ ".gz".toList) = decide (NamesLines name) := by
  rw [isLinesName, reverse_extended, ← namesLines_iff, ← List.reverse_reverse name]
  simp only [List.reverse_reverse]

theorem lines_plain {name : List Char} (plain : PlainName name) :
    isLinesName name = decide (NamesLines name) := by
  unfold isLinesName
  split
  · rename_i rest written
    have extended : name = rest.reverse ++ ".gz".toList := by
      rw [← List.reverse_reverse name, written]
      simp
    refine absurd ⟨lastStep rest.reverse, ?_⟩ plain.uncompressed
    rw [extended, baseName_extended]
  · exact namesLines_iff name

/-! ## Bytes -/

theorem encode_eq (text : String) :
    Text.encode text = text.toList.flatMap String.utf8EncodeChar := by
  have same : text.toList.utf8Encode.data.toList = text.toList.flatMap String.utf8EncodeChar := by
    simp [List.utf8Encode]
  rw [Text.encode, ← same, String.utf8Encode_toList, String.toUTF8_eq_toByteArray]

/-- The first byte of compressed data is a whole character. -/
theorem whole_character {c : Char} {more : List UInt8}
    (written : String.utf8EncodeChar c = 0x1F :: more) : more = [] := by
  have apart {n : Nat} (large : 192 ≤ n) (small : n < 256) : UInt8.ofNat n ≠ 0x1F := by
    intro same
    have values := congrArg UInt8.toNat same
    rw [UInt8.toNat_ofNat', Nat.mod_eq_of_lt small] at values
    change n = 31 at values
    omega
  unfold String.utf8EncodeChar at written
  dsimp only at written
  split at written
  · exact (List.cons.inj written).2.symm
  · split at written
    · exact absurd (List.cons.inj written).1 (apart (by omega) (by omega))
    · split at written
      · exact absurd (List.cons.inj written).1 (apart (by omega) (by omega))
      · exact absurd (List.cons.inj written).1 (apart (by omega) (by omega))

/-- The second byte of compressed data begins no character. -/
theorem no_character {c : Char} {more : List UInt8} :
    String.utf8EncodeChar c ≠ 0x8B :: more := by
  intro written
  have first := UInt8.isUTF8FirstByte_getElem_zero_utf8EncodeChar (c := c)
  simp only [written, List.getElem_cons_zero] at first
  exact absurd first (by decide)

/-- A byte at the front of some characters is the first byte of one of them. -/
theorem first_character {byte : UInt8} {chars : List Char} {rest : List UInt8}
    (written : byte :: rest = chars.flatMap String.utf8EncodeChar) :
    ∃ c others more, chars = c :: others ∧ String.utf8EncodeChar c = byte :: more ∧
      rest = more ++ others.flatMap String.utf8EncodeChar := by
  match chars with
  | [] => cases written
  | c :: others =>
    rw [List.flatMap_cons] at written
    cases shape : String.utf8EncodeChar c with
    | nil =>
      have size := c.utf8Size_pos
      rw [← String.length_utf8EncodeChar, shape] at size
      cases size
    | cons first more =>
      rw [shape, List.cons_append, List.cons.injEq] at written
      exact ⟨c, others, more, rfl, by rw [shape, written.1], written.2⟩

/-- No text begins with the bytes of compressed data. -/
theorem text_without_magic (text : String) : ¬ magic <+: Text.encode text := by
  rw [encode_eq]
  rintro ⟨rest, written⟩
  obtain ⟨c, others, more, -, first, behind⟩ := first_character written
  rw [whole_character first, List.nil_append] at behind
  obtain ⟨d, _, _, -, second, -⟩ := first_character behind
  exact no_character second

/-! ## Texts -/

theorem readFile_plain {name : String} (plain : PlainName name.toList) (text : String) :
    readFile name (some (Text.encode text)) = .ok text.toList := by
  rw [readFile, if_neg (by simp [not_compressed plain])]
  simp [decodeText?, Text.decode?_encode]

/-- From a compressed file comes the text of its first member. -/
theorem readFile_compressed {name : String} (compressed : isCompressedName name.toList = true)
    {member : List UInt8} {text : String} (holds : Member member (Text.encode text))
    (more : List UInt8) : readFile name (some (member ++ more)) = .ok text.toList := by
  rw [readFile, if_pos compressed]
  simp [decompressText?, decompress_first holds, decodeText?, Text.decode?_encode]

theorem readInput_plain (text : String) : readInput (Text.encode text) = .ok text.toList := by
  rw [readInput, if_neg (by rw [List.isPrefixOf_iff_prefix]; exact text_without_magic text)]
  simp [decodeText?, Text.decode?_encode]

/-- From compressed input comes the text of its first member. -/
theorem readInput_compressed {member : List UInt8} {text : String}
    (holds : Member member (Text.encode text)) (more : List UInt8) :
    readInput (member ++ more) = .ok text.toList := by
  rw [readInput, if_pos (magic_of_member holds more)]
  simp [decompressText?, decompress_first holds, decodeText?, Text.decode?_encode]

/-- Input whose text is a document has the value of that document. -/
theorem loadInput_document {bytes : List UInt8} {text : List Char} {value : Value}
    (read : readInput bytes = .ok text) (parsed : parse text = .ok value) :
    loadInput bytes = .ok value := by
  have bound : loadInput bytes = parseInput text := by
    rw [loadInput, read]
    rfl
  rw [bound]
  unfold parseInput
  rw [parsed]

/-! ## Several members -/

/-- Members that hold these texts, each text in one member, in the same order. -/
def Hold (members : List (List UInt8)) (texts : List String) : Prop :=
  List.Forall₂ (fun member text => Member member (Text.encode text)) members texts

/-- Every list of texts can stand in members one behind the other. -/
theorem members_exist (texts : List String) : ∃ members, Hold members texts := by
  induction texts with
  | nil => exact ⟨[], .nil⟩
  | cons text rest ih =>
    obtain ⟨members, hold⟩ := ih
    obtain ⟨member, holds⟩ := member_exists (Text.encode text)
    exact ⟨member :: members, .cons holds hold⟩

/-- Of several members only the first one is read, from a file as well as from input:
the whole text comes out if and only if there is no text in the others. -/
theorem only_first_member_is_read (name : String) (first : String) (others : List String)
    (compressed : isCompressedName name.toList = true) :
    (∃ members, Hold members (first :: others)) ∧
    ∀ members, Hold members (first :: others) →
      readFile name (some members.flatten) = .ok first.toList ∧
      readInput members.flatten = .ok first.toList ∧
      (readFile name (some members.flatten) =
        .ok ((first :: others).flatMap String.toList) ↔ ∀ text ∈ others, text = "") ∧
      (readInput members.flatten =
        .ok ((first :: others).flatMap String.toList) ↔ ∀ text ∈ others, text = "") := by
  refine ⟨members_exist _, fun members holds => ?_⟩
  cases holds with
  | @cons member _ later _ here rest =>
    have lost : (.ok first.toList : Except LoadError (List Char)) =
        .ok ((first :: others).flatMap String.toList) ↔ ∀ text ∈ others, text = "" := by
      rw [Except.ok.injEq, List.flatMap_cons, List.self_eq_append_right, List.flatMap_eq_nil_iff]
      simp only [String.toList_eq_nil_iff]
    have file := readFile_compressed compressed here later.flatten
    have input := readInput_compressed here later.flatten
    rw [← List.flatten_cons] at file input
    rw [file, input]
    exact ⟨rfl, rfl, lost, lost⟩

/-- The members of a log that was continued. -/
def continuedLog : List (List UInt8) :=
  [storedMember [Text.encode "a: 1\n"], storedMember [Text.encode "b: 2\n"]]

theorem continuedLog_holds : Hold continuedLog ["a: 1\n", "b: 2\n"] := by
  exact .cons (singleMember_holds (by decide)) (.cons (singleMember_holds (by decide)) .nil)

theorem first_part_of_continued_log :
    isCompressedName "log.yaml.gz".toList = true ∧ Hold continuedLog ["a: 1\n", "b: 2\n"] ∧
      readFile "log.yaml.gz" (some continuedLog.flatten) = .ok "a: 1\n".toList ∧
      readInput continuedLog.flatten = .ok "a: 1\n".toList := by
  have compressed : isCompressedName "log.yaml.gz".toList = true := by decide
  have read := (only_first_member_is_read "log.yaml.gz" "a: 1\n" ["b: 2\n"] compressed).2
    continuedLog continuedLog_holds
  exact ⟨compressed, continuedLog_holds, read.1, read.2.1⟩

/-- The text of a later member is lost. -/
theorem later_member_is_lost :
    ¬ ∀ (name : String) (members : List (List UInt8)) (texts : List String),
      isCompressedName name.toList = true → texts ≠ [] → Hold members texts →
      readFile name (some members.flatten) = .ok (texts.flatMap String.toList) ∧
        readInput members.flatten = .ok (texts.flatMap String.toList) := by
  intro claimed
  have whole := (claimed "log.yaml.gz" continuedLog ["a: 1\n", "b: 2\n"] (by decide) (by simp)
    continuedLog_holds).2
  have holds : Member (storedMember [Text.encode "a: 1\n"]) (Text.encode "a: 1\n") :=
    singleMember_holds (by decide)
  have first := readInput_compressed holds (storedMember [Text.encode "b: 2\n"] ++ [])
  rw [continuedLog, List.flatten_cons, List.flatten_cons, List.flatten_nil] at whole
  exact absurd (Except.ok.inj (first.symm.trans whole)) (by decide)

/-! ## All routes -/

/-- Compression and the way in do not change a document. A file holds the same value
under its own name and, as one member, under that name with the extension of compressed
files, or it fails under both; its own name says whether it holds lines. Where the
text is a YAML document, input gives the value of that document as well, as it is or
as one member, since no text begins like compressed data. -/
theorem document_is_same_on_all_routes (name text : String) (member : List UInt8)
    (plain : PlainName name.toList) (holds : Member member (Text.encode text)) :
    (load name (some (Text.encode text))).toOption =
      (load (name ++ ".gz") (some member)).toOption ∧
    (load name (some (Text.encode text)) =
      if NamesLines name.toList then parseLines text.toList
      else (parse text.toList).mapError (.inFile name)) ∧
    (load (name ++ ".gz") (some member) =
      if NamesLines name.toList then parseLines text.toList
      else (parse text.toList).mapError (.inFile (name ++ ".gz"))) ∧
    ¬ magic <+: Text.encode text ∧
    ∀ value, parse text.toList = .ok value →
      loadInput (Text.encode text) = .ok value ∧ loadInput member = .ok value := by
  have extended : (name ++ ".gz").toList = name.toList ++ ".gz".toList := by
    rw [String.toList_append]
  have compressed : isCompressedName (name ++ ".gz").toList = true := by
    rw [extended]
    exact compressed_extended plain.named
  have unpacked := readFile_compressed compressed holds []
  have input := readInput_compressed holds []
  rw [List.append_nil] at unpacked input
  have here : load name (some (Text.encode text)) =
      if NamesLines name.toList then parseLines text.toList
      else (parse text.toList).mapError (.inFile name) := by
    rw [load, readFile_plain plain, lines_plain plain]
    simp only [decide_eq_true_eq]
    rfl
  have there : load (name ++ ".gz") (some member) =
      if NamesLines name.toList then parseLines text.toList
      else (parse text.toList).mapError (.inFile (name ++ ".gz")) := by
    rw [load, unpacked, extended, lines_extended]
    simp only [decide_eq_true_eq]
    rfl
  refine ⟨?_, here, there, text_without_magic text, fun value parsed => ?_⟩
  · rw [here, there]
    split
    · rfl
    · cases parse text.toList <;> rfl
  · exact ⟨loadInput_document (readInput_plain text) parsed, loadInput_document input parsed⟩

/-- A file of one line, under a name that begins with a dot. -/
theorem hidden_lines_on_all_routes :
    let text := "[true]\n"
    let member := storedMember [Text.encode text]
    PlainName "logs/.jsonl".toList ∧ Member member (Text.encode text) ∧
      (load "logs/.jsonl" (some (Text.encode text))).toOption =
        (load ("logs/.jsonl" ++ ".gz") (some member)).toOption ∧
      load ("logs/.jsonl" ++ ".gz") (some member) = .ok (.list [.list [.boolean true]]) ∧
      loadInput member = .ok (.list [.boolean true]) := by
  intro text member
  have plain : PlainName "logs/.jsonl".toList := ⟨by decide, by decide⟩
  have holds : Member member (Text.encode text) := singleMember_holds (by decide)
  obtain ⟨same, -, there, -, input⟩ := document_is_same_on_all_routes _ _ _ plain holds
  have lines : parseLines "[true]\n".toList = .ok (.list [.list [.boolean true]]) := rfl
  have parsed : parse "[true]\n".toList = .ok (.list [.boolean true]) := rfl
  have named : NamesLines "logs/.jsonl".toList := by decide
  rw [if_pos named] at there
  exact ⟨plain, holds, same, there.trans lines, (input _ parsed).2⟩

end ValuePath.InputRoutes
