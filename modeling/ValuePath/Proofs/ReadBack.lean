import ValuePath.Document.Convert
import ValuePath.Proofs.NormalValues
import ValuePath.Proofs.ValueEquality

/-! Which documents a tree is read back as once it is written, and which values
those documents have. Both formats give the value that the tree stands for; JSON
gives it with its maps in the order of their keys, and has no number that is not
finite. -/
namespace ValuePath.ReadBack
open DistinctKeys NormalValues
open ValueEquality (equalEntries_iff)
open Numeric (Binary64 Number)
open Yaml (Node)

/-- A double that is read back keeps its bits, unless it is not a number. -/
def SameDouble (x y : Binary64) : Prop := y = x ∨ (x.isNaN = true ∧ y.isNaN = true)

mutual
/-- The YAML document is what the tree is read back as: integers are exact, and
the entries of a mapping keep their order. -/
def YamlReads : Tree → Node → Prop
  | .null, .null => True
  | .boolean a, .boolean b => b = a
  | .integer n, .number m => ∃ i, m.toInt64? = some i ∧ i.toInt = n
  | .character c, .string text => text = String.singleton c
  | .double x, .number (.float y) => SameDouble x y
  | .text a, .string b => b = a
  | .sequence items, .sequence nodes => YamlReadsItems items nodes
  | .mapping entries, .mapping nodes => YamlReadsEntries entries nodes
  | _, _ => False

def YamlReadsItems : List Tree → List Node → Prop
  | [], [] => True
  | item :: rest, node :: nodes => YamlReads item node ∧ YamlReadsItems rest nodes
  | _, _ => False

def YamlReadsEntries : List (String × Tree) → List (Node × Node) → Prop
  | [], [] => True
  | (key, value) :: rest, (node, held) :: nodes =>
    node = .string key ∧ YamlReads value held ∧ YamlReadsEntries rest nodes
  | _, _ => False
end

mutual
/-- The JSON document is what the tree is read back as: integers are exact, what
is not finite is null, and the entries of an object are in the order of their keys. -/
def JsonReads : Tree → Json → Prop
  | .null, .null => True
  | .boolean a, .boolean b => b = a
  | .integer n, .number m => ∃ i, m.toInt64? = some i ∧ i.toInt = n
  | .character c, .string text => text = String.singleton c
  | .double x, .number (.float y) => x.isFinite = true ∧ y = x
  | .double x, .null => x.isFinite = false
  | .text a, .string b => b = a
  | .sequence items, .array read => JsonReadsItems items read
  | .mapping entries, .object sorted =>
    ∃ read, JsonReadsEntries entries read ∧ sorted = arranged read
  | _, _ => False

def JsonReadsItems : List Tree → List Json → Prop
  | [], [] => True
  | item :: rest, json :: read => JsonReads item json ∧ JsonReadsItems rest read
  | _, _ => False

def JsonReadsEntries : List (String × Tree) → List (String × Json) → Prop
  | [], [] => True
  | (key, value) :: rest, (name, json) :: read =>
    name = key ∧ JsonReads value json ∧ JsonReadsEntries rest read
  | _, _ => False
end

mutual
/-- The value with one pattern for all that is not a number. -/
def quiet : Value → Value
  | .double x => .double (if x.isNaN then Binary64.nan else x)
  | .array items => .array (quietItems items)
  | .list items => .list (quietItems items)
  | .map entries => .map (quietEntries entries)
  | value => value

def quietItems : List Value → List Value
  | [] => []
  | item :: rest => quiet item :: quietItems rest

def quietEntries : List (String × Value) → List (String × Value)
  | [] => []
  | (key, value) :: rest => (key, quiet value) :: quietEntries rest
end

mutual
/-- The value with null for every double that is not finite. -/
def finiteOrNull : Value → Value
  | .double x => if x.isFinite then .double x else .null
  | .array items => .array (finiteOrNullItems items)
  | .list items => .list (finiteOrNullItems items)
  | .map entries => .map (finiteOrNullEntries entries)
  | value => value

def finiteOrNullItems : List Value → List Value
  | [] => []
  | item :: rest => finiteOrNull item :: finiteOrNullItems rest

def finiteOrNullEntries : List (String × Value) → List (String × Value)
  | [] => []
  | (key, value) :: rest => (key, finiteOrNull value) :: finiteOrNullEntries rest
end

mutual
/-- Every map in the value has its keys in increasing order. -/
def SortedKeys : Value → Prop
  | .array items | .list items => SortedKeysItems items
  | .map entries => Sorted entries ∧ SortedKeysEntries entries
  | _ => True

def SortedKeysItems : List Value → Prop
  | [] => True
  | item :: rest => SortedKeys item ∧ SortedKeysItems rest

def SortedKeysEntries : List (String × Value) → Prop
  | [] => True
  | (_, value) :: rest => SortedKeys value ∧ SortedKeysEntries rest
end

/-! ## Numbers -/

theorem ofInt64_eq_narrowed (i : Int64) : Value.ofInt64 i = narrowed i.toInt := by
  have least : Int32.minValue.toInt = -2 ^ 31 := by decide
  have greatest : Int32.maxValue.toInt = 2 ^ 31 - 1 := by decide
  have narrow : i.toInt32 = Int32.ofInt i.toInt := by
    rw [← Int64.toInt32_ofInt, Int64.ofInt_toInt]
  rw [Value.ofInt64, narrowed, least, greatest, narrow, Int64.ofInt_toInt]
  simp only [show i.toInt ≤ 2 ^ 31 - 1 ↔ i.toInt < 2 ^ 31 by omega]

theorem ofNumber_integer {m : Number} {i : Int64} (exact_integer : m.toInt64? = some i) :
    Value.ofNumber m = narrowed i.toInt := by
  rw [Value.ofNumber, exact_integer]
  exact ofInt64_eq_narrowed i

theorem ofNumber_float (x : Binary64) : Value.ofNumber (.float x) = .double x := rfl

theorem quiet_double {x y : Binary64} (same : SameDouble x y) :
    quiet (.double y) = quiet (.double x) := by
  rcases same with rfl | ⟨left, right⟩
  · rfl
  · simp [quiet, left, right]

/-- Every integer of 64 bits is a number of documents. -/
theorem number_exists {n : Int} (low : -2 ^ 63 ≤ n) (high : n < 2 ^ 63) :
    ∃ m : Number, ∃ i, m.toInt64? = some i ∧ i.toInt = n :=
  ⟨.negative (Int64.ofInt n), Int64.ofInt n, rfl, Int64.toInt_ofInt_of_le low high⟩

/-! ## YAML -/

private theorem keys_yaml {entries : List (String × Tree)} {nodes : List (Node × Node)}
    (reads : YamlReadsEntries entries nodes) :
    Entries.keys (Value.ofYamlEntries nodes) = Entries.keys entries := by
  induction entries generalizing nodes with
  | nil =>
    cases nodes with
    | nil => rfl
    | cons node nodes => exact reads.elim
  | cons entry rest ih =>
    obtain ⟨key, value⟩ := entry
    cases nodes with
    | nil => exact reads.elim
    | cons pair nodes =>
      obtain ⟨node, held⟩ := pair
      obtain ⟨rfl, -, others⟩ := reads
      rw [Value.ofYamlEntries, keys_cons, keys_cons, ih others]
      rfl

mutual
/-- A YAML document has the value that the tree stands for. -/
theorem quiet_ofYaml : (tree : Tree) → (node : Node) → Plain tree → YamlReads tree node →
    quiet (Value.ofYaml node) = quiet (ofTree tree)
  | .null, .null, _, _ => rfl
  | .boolean a, .boolean b, _, reads => by rw [show b = a from reads]; rfl
  | .integer n, .number m, _, reads => by
    obtain ⟨i, number, rfl⟩ := reads
    rw [Value.ofYaml, ofNumber_integer number]
    rfl
  | .character c, .string text, _, reads => by
    rw [show text = String.singleton c from reads]
    rfl
  | .double x, .number (.float y), _, reads => quiet_double reads
  | .text a, .string b, _, reads => by rw [show b = a from reads]; rfl
  | .sequence items, .sequence nodes, plain, reads => by
    rw [Value.ofYaml, ofTree, quiet, quiet, quiet_ofYamlItems items nodes plain reads]
  | .mapping entries, .mapping nodes, plain, reads => by
    have distinct : Entries.Distinct (Value.ofYamlEntries nodes) := by
      rw [Entries.Distinct, keys_yaml reads]
      exact plain.1
    rw [Value.ofYaml, ofTree, quiet, quiet, ofPairs_of_distinct distinct,
      quiet_ofYamlEntries entries nodes plain.2 reads]

theorem quiet_ofYamlItems : (items : List Tree) → (nodes : List Node) → PlainItems items →
    YamlReadsItems items nodes → quietItems (Value.ofYamlItems nodes) = quietItems (ofTrees items)
  | [], [], _, _ => rfl
  | item :: rest, node :: nodes, plain, reads => by
    rw [Value.ofYamlItems, ofTrees, quietItems, quietItems,
      quiet_ofYaml item node plain.1 reads.1, quiet_ofYamlItems rest nodes plain.2 reads.2]

theorem quiet_ofYamlEntries : (entries : List (String × Tree)) → (nodes : List (Node × Node)) →
    PlainEntries entries → YamlReadsEntries entries nodes →
      quietEntries (Value.ofYamlEntries nodes) = quietEntries (ofEntryTrees entries)
  | [], [], _, _ => rfl
  | (key, value) :: rest, (node, held) :: nodes, plain, reads => by
    obtain ⟨rfl, first, others⟩ := reads
    rw [Value.ofYamlEntries, ofEntryTrees, quietEntries, quietEntries,
      quiet_ofYaml value held plain.1 first, quiet_ofYamlEntries rest nodes plain.2 others]
    rfl
end

mutual
theorem yaml_exists : (tree : Tree) → Plain tree → ∃ node, YamlReads tree node
  | .null, _ => ⟨.null, trivial⟩
  | .boolean b, _ => ⟨.boolean b, rfl⟩
  | .integer _, plain => by
    obtain ⟨m, number⟩ := number_exists plain.1 plain.2
    exact ⟨.number m, number⟩
  | .character c, _ => ⟨.string (String.singleton c), rfl⟩
  | .double x, _ => ⟨.number (.float x), .inl rfl⟩
  | .text text, _ => ⟨.string text, rfl⟩
  | .sequence items, plain => by
    obtain ⟨nodes, reads⟩ := yamlItems_exist items plain
    exact ⟨.sequence nodes, reads⟩
  | .mapping entries, plain => by
    obtain ⟨nodes, reads⟩ := yamlEntries_exist entries plain.2
    exact ⟨.mapping nodes, reads⟩

theorem yamlItems_exist : (items : List Tree) → PlainItems items →
    ∃ nodes, YamlReadsItems items nodes
  | [], _ => ⟨[], trivial⟩
  | item :: rest, plain => by
    obtain ⟨node, reads⟩ := yaml_exists item plain.1
    obtain ⟨nodes, others⟩ := yamlItems_exist rest plain.2
    exact ⟨node :: nodes, reads, others⟩

theorem yamlEntries_exist : (entries : List (String × Tree)) → PlainEntries entries →
    ∃ nodes, YamlReadsEntries entries nodes
  | [], _ => ⟨[], trivial⟩
  | (key, value) :: rest, plain => by
    obtain ⟨node, reads⟩ := yaml_exists value plain.1
    obtain ⟨nodes, others⟩ := yamlEntries_exist rest plain.2
    exact ⟨(.string key, node) :: nodes, rfl, reads, others⟩
end

/-! ## JSON -/

theorem equals_finite {x : Binary64} (finite : x.isFinite = true) :
    (Value.double x).equals (.double x) = true := by
  rw [Binary64.isFinite] at finite
  simp only [Value.equals, Binary64.numericEq]
  split at finite
  · rename_i number
    simp [Numeric.Datum.numericEq, number]
  · cases finite

theorem equals_narrowed (n : Int) : (narrowed n).equals (narrowed n) = true := by
  unfold narrowed
  split <;> simp [Value.equals]

theorem finiteOrNull_narrowed (n : Int) : finiteOrNull (narrowed n) = narrowed n := by
  unfold narrowed
  split <;> rfl

theorem sortedKeys_narrowed (n : Int) : SortedKeys (narrowed n) := by
  unfold narrowed
  split <;> trivial

theorem ofJsonEntries_eq_map (entries : List (String × Json)) :
    Value.ofJsonEntries entries = entries.map fun entry => (entry.1, Value.ofJson entry.2) := by
  induction entries with
  | nil => rfl
  | cons entry rest ih => rw [Value.ofJsonEntries, ih, List.map_cons]

theorem keys_ofJsonEntries (entries : List (String × Json)) :
    Entries.keys (Value.ofJsonEntries entries) = Entries.keys entries := by
  rw [ofJsonEntries_eq_map, Entries.keys, List.map_map]
  rfl

theorem sortedKeysEntries_iff {entries : List (String × Value)} :
    SortedKeysEntries entries ↔ ∀ entry ∈ entries, SortedKeys entry.2 := by
  induction entries with
  | nil => simp [SortedKeysEntries]
  | cons entry rest ih => simp [SortedKeysEntries, ih]

private theorem keys_json {entries : List (String × Tree)} {read : List (String × Json)}
    (reads : JsonReadsEntries entries read) : Entries.keys read = Entries.keys entries := by
  induction entries generalizing read with
  | nil =>
    cases read with
    | nil => rfl
    | cons pair read => exact reads.elim
  | cons entry rest ih =>
    obtain ⟨key, value⟩ := entry
    cases read with
    | nil => exact reads.elim
    | cons pair read =>
      obtain ⟨name, json⟩ := pair
      obtain ⟨rfl, -, others⟩ := reads
      rw [keys_cons, keys_cons, ih others]

private theorem keys_finiteOrNull (entries : List (String × Value)) :
    Entries.keys (finiteOrNullEntries entries) = Entries.keys entries := by
  induction entries with
  | nil => rfl
  | cons entry rest ih => rw [finiteOrNullEntries, keys_cons, ih, keys_cons]

mutual
/-- A JSON document has the value that the tree stands for, but for the numbers
that are not finite, and its maps have their keys in order. -/
theorem equals_ofJson : (tree : Tree) → (json : Json) → Plain tree → JsonReads tree json →
    (Value.ofJson json).equals (finiteOrNull (ofTree tree)) = true ∧
      SortedKeys (Value.ofJson json)
  | .null, .null, _, _ => ⟨rfl, trivial⟩
  | .boolean a, .boolean b, _, reads => by
    rw [show b = a from reads]
    exact ⟨by simp [Value.ofJson, ofTree, finiteOrNull, Value.equals], trivial⟩
  | .integer n, .number m, _, reads => by
    obtain ⟨i, number, rfl⟩ := reads
    rw [Value.ofJson, ofNumber_integer number, ofTree, finiteOrNull_narrowed]
    exact ⟨equals_narrowed _, sortedKeys_narrowed _⟩
  | .character c, .string text, _, reads => by
    rw [show text = String.singleton c from reads]
    exact ⟨by simp [Value.ofJson, ofTree, finiteOrNull, Value.equals], trivial⟩
  | .double x, .number (.float y), _, reads => by
    obtain ⟨finite, rfl⟩ := reads
    rw [Value.ofJson, ofNumber_float, ofTree, finiteOrNull, if_pos finite]
    exact ⟨equals_finite finite, trivial⟩
  | .double x, .null, _, reads => by
    rw [Value.ofJson, ofTree, finiteOrNull, if_neg (by simp [show x.isFinite = false from reads])]
    exact ⟨rfl, trivial⟩
  | .text a, .string b, _, reads => by
    rw [show b = a from reads]
    exact ⟨by simp [Value.ofJson, ofTree, finiteOrNull, Value.equals], trivial⟩
  | .sequence items, .array read, plain, reads => by
    rw [Value.ofJson, ofTree, finiteOrNull, Value.equals, SortedKeys]
    exact equals_ofJsonItems items read plain reads
  | .mapping entries, .object sorted, plain, reads => by
    obtain ⟨read, reads, rfl⟩ := reads
    have each := equals_ofJsonEntries entries read plain.2 reads
    have distinctRead : Entries.Distinct read := by
      rw [Entries.Distinct, keys_json reads]
      exact plain.1
    have rearranged := perm_arranged distinctRead
    have distinct : Entries.Distinct (finiteOrNullEntries (ofEntryTrees entries)) := by
      rw [Entries.Distinct, keys_finiteOrNull, keys_ofEntryTrees]
      exact plain.1
    have lengths := (congrArg List.length (keys_json reads)).trans
      (congrArg List.length ((keys_ofEntryTrees entries).symm.trans
        (keys_finiteOrNull (ofEntryTrees entries)).symm))
    simp only [Entries.keys, List.length_map] at lengths
    rw [Value.ofJson, ofTree, finiteOrNull, Value.equals, Bool.and_eq_true, beq_iff_eq,
      equalEntries_iff, SortedKeys, sortedKeysEntries_iff, ofJsonEntries_eq_map]
    refine ⟨⟨by rw [List.length_map, rearranged.length_eq, lengths], ?_⟩, ?_, ?_⟩
    · intro entry member
      obtain ⟨⟨name, json⟩, held, rfl⟩ := List.mem_map.mp member
      obtain ⟨value, present, same, -⟩ := each name json (rearranged.mem_iff.mp held)
      exact ⟨value, find_of_mem distinct present, same⟩
    · have ordered := sorted_arranged read
      simpa [Sorted, Entries.keys, Function.comp_def] using ordered
    · intro entry member
      obtain ⟨⟨name, json⟩, held, rfl⟩ := List.mem_map.mp member
      obtain ⟨value, -, -, ordered⟩ := each name json (rearranged.mem_iff.mp held)
      exact ordered

theorem equals_ofJsonItems : (items : List Tree) → (read : List Json) → PlainItems items →
    JsonReadsItems items read →
      Value.equalItems (Value.ofJsonItems read) (finiteOrNullItems (ofTrees items)) = true ∧
        SortedKeysItems (Value.ofJsonItems read)
  | [], [], _, _ => ⟨rfl, trivial⟩
  | item :: rest, json :: read, plain, reads => by
    obtain ⟨same, ordered⟩ := equals_ofJson item json plain.1 reads.1
    obtain ⟨others_same, others_ordered⟩ := equals_ofJsonItems rest read plain.2 reads.2
    rw [Value.ofJsonItems, ofTrees, finiteOrNullItems, Value.equalItems, same, others_same]
    exact ⟨rfl, ordered, others_ordered⟩

/-- Each entry of an object has the value that one of the entries of the tree
stands for under the same key. -/
theorem equals_ofJsonEntries : (entries : List (String × Tree)) →
    (read : List (String × Json)) → PlainEntries entries → JsonReadsEntries entries read →
      ∀ name json, (name, json) ∈ read → ∃ value,
        (name, value) ∈ finiteOrNullEntries (ofEntryTrees entries) ∧
          (Value.ofJson json).equals value = true ∧ SortedKeys (Value.ofJson json)
  | [], [], _, _ => by simp
  | (key, tree) :: rest, (other, held) :: read, plain, reads => by
    obtain ⟨rfl, first, others⟩ := reads
    intro name json member
    rw [ofEntryTrees, finiteOrNullEntries]
    rcases List.mem_cons.mp member with here | later
    · cases here
      exact ⟨_, List.mem_cons_self, equals_ofJson tree held plain.1 first⟩
    · obtain ⟨value, present, same⟩ := equals_ofJsonEntries rest read plain.2 others name json later
      exact ⟨value, List.mem_cons_of_mem _ present, same⟩
end

mutual
theorem json_exists : (tree : Tree) → Plain tree → ∃ json, JsonReads tree json
  | .null, _ => ⟨.null, trivial⟩
  | .boolean b, _ => ⟨.boolean b, rfl⟩
  | .integer _, plain => by
    obtain ⟨m, number⟩ := number_exists plain.1 plain.2
    exact ⟨.number m, number⟩
  | .character c, _ => ⟨.string (String.singleton c), rfl⟩
  | .double x, _ => by
    cases finite : x.isFinite with
    | true => exact ⟨.number (.float x), finite, rfl⟩
    | false => exact ⟨.null, finite⟩
  | .text text, _ => ⟨.string text, rfl⟩
  | .sequence items, plain => by
    obtain ⟨read, reads⟩ := jsonItems_exist items plain
    exact ⟨.array read, reads⟩
  | .mapping entries, plain => by
    obtain ⟨read, reads⟩ := jsonEntries_exist entries plain.2
    exact ⟨.object (arranged read), read, reads, rfl⟩

theorem jsonItems_exist : (items : List Tree) → PlainItems items →
    ∃ read, JsonReadsItems items read
  | [], _ => ⟨[], trivial⟩
  | item :: rest, plain => by
    obtain ⟨json, reads⟩ := json_exists item plain.1
    obtain ⟨read, others⟩ := jsonItems_exist rest plain.2
    exact ⟨json :: read, reads, others⟩

theorem jsonEntries_exist : (entries : List (String × Tree)) → PlainEntries entries →
    ∃ read, JsonReadsEntries entries read
  | [], _ => ⟨[], trivial⟩
  | (key, value) :: rest, plain => by
    obtain ⟨json, reads⟩ := json_exists value plain.1
    obtain ⟨read, others⟩ := jsonEntries_exist rest plain.2
    exact ⟨(key, json) :: read, rfl, reads, others⟩
end

end ValuePath.ReadBack
