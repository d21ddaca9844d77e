import ValuePath.Proofs.JsonLines
import ValuePath.Proofs.ReadBack
import ValuePath.Records

/-! Writing a value and loading what was written. What comes back is the normal
form of the value, and a value that was loaded comes back as it is. -/
namespace ValuePath.Reloading
open DistinctKeys NormalValues ReadBack
open Numeric (Binary64 Number)
open Yaml (Node)

/-! ## Loaded values -/

theorem settled_ofNumber (m : Number) : Settled (Value.ofNumber m) := by
  cases number : m.toInt64? with
  | none =>
    rw [Value.ofNumber, number]
    trivial
  | some i =>
    rw [ofNumber_integer number]
    exact settled_narrowed i.le_toInt i.toInt_lt

theorem settled_insert {key : String} {value : Value} {entries : List (String × Value)}
    (settled : SettledEntries entries) (added : Settled value) :
    SettledEntries (Entries.insert key value entries) := by
  induction entries with
  | nil => exact ⟨added, trivial⟩
  | cons entry rest ih =>
    obtain ⟨other, held⟩ := entry
    rw [Entries.insert]
    split
    · exact ⟨added, settled.2⟩
    · exact ⟨settled.1, ih settled.2⟩

theorem settled_of_mem {entries : List (String × Value)} (settled : SettledEntries entries) :
    ∀ entry ∈ entries, Settled entry.2 := by
  induction entries with
  | nil => simp
  | cons entry rest ih => exact List.forall_mem_cons.mpr ⟨settled.1, ih settled.2⟩

theorem settled_ofPairs {pairs : List (String × Value)} (settled : SettledEntries pairs) :
    SettledEntries (Entries.ofPairs pairs) :=
  ofPairs_induction trivial pairs fun _ kept pair member =>
    settled_insert kept (settled_of_mem settled pair member)

mutual
/-- The value of a YAML document is settled. -/
theorem settled_ofYaml : (node : Node) → Settled (Value.ofYaml node)
  | .null => trivial
  | .boolean _ => trivial
  | .number m => settled_ofNumber m
  | .string _ => trivial
  | .sequence items => settled_ofYamlItems items
  | .mapping entries => ⟨distinct_ofPairs _, settled_ofPairs (settled_ofYamlEntries entries)⟩
  | .tagged _ value => settled_ofYaml value

theorem settled_ofYamlItems : (items : List Node) → SettledItems (Value.ofYamlItems items)
  | [] => trivial
  | item :: rest => ⟨settled_ofYaml item, settled_ofYamlItems rest⟩

theorem settled_ofYamlEntries : (entries : List (Node × Node)) →
    SettledEntries (Value.ofYamlEntries entries)
  | [] => trivial
  | (_, value) :: rest => ⟨settled_ofYaml value, settled_ofYamlEntries rest⟩
end

mutual
/-- Every object in the document has its entries in the order of their keys. -/
def Arranged : Json → Prop
  | .array items => ArrangedItems items
  | .object entries => Sorted entries ∧ ArrangedEntries entries
  | _ => True

def ArrangedItems : List Json → Prop
  | [] => True
  | item :: rest => Arranged item ∧ ArrangedItems rest

def ArrangedEntries : List (String × Json) → Prop
  | [] => True
  | (_, value) :: rest => Arranged value ∧ ArrangedEntries rest
end

theorem arranged_insertSorted {key : String} {value : Json} {entries : List (String × Json)}
    (kept : ArrangedEntries entries) (added : Arranged value) :
    ArrangedEntries (Json.insertSorted key value entries) := by
  induction entries with
  | nil => exact ⟨added, trivial⟩
  | cons entry rest ih =>
    obtain ⟨other, held⟩ := entry
    rw [Json.insertSorted]
    split
    · exact ⟨added, kept.2⟩
    · split
      · exact ⟨added, kept⟩
      · exact ⟨kept.1, ih kept.2⟩

theorem arranged_of_mem {entries : List (String × Json)} (each : ArrangedEntries entries) :
    ∀ entry ∈ entries, Arranged entry.2 := by
  induction entries with
  | nil => simp
  | cons entry rest ih => exact List.forall_mem_cons.mpr ⟨each.1, ih each.2⟩

theorem arranged_ofEntries {entries : List (String × Json)} (each : ArrangedEntries entries) :
    Arranged (Json.ofEntries entries) :=
  ⟨sorted_arranged entries, arranged_induction trivial entries fun _ kept entry member =>
    arranged_insertSorted kept (arranged_of_mem each entry member)⟩

mutual
/-- What is written in the grammar is arranged. -/
theorem arranged_meaning : (source : JsonGrammar.Source) → Arranged source.meaning
  | .null | .boolean _ | .number .. | .string _ => trivial
  | .emptyArray _ => trivial
  | .emptyObject _ => ⟨List.Pairwise.nil, trivial⟩
  | .array items => arranged_meanings items
  | .object pairs => arranged_ofEntries (arranged_pairMeanings pairs)

theorem arranged_meanings : (items : JsonGrammar.Items) → ArrangedItems items.meanings
  | .last _ item _ => ⟨arranged_meaning item, trivial⟩
  | .more _ item _ rest => ⟨arranged_meaning item, arranged_meanings rest⟩

theorem arranged_pairMeanings : (pairs : JsonGrammar.Pairs) → ArrangedEntries pairs.meanings
  | .last _ _ _ _ value _ => ⟨arranged_meaning value, trivial⟩
  | .more _ _ _ _ value _ rest => ⟨arranged_meaning value, arranged_pairMeanings rest⟩
end

mutual
/-- The value of an arranged JSON document is settled. -/
theorem settled_ofJson : (json : Json) → Arranged json → Settled (Value.ofJson json)
  | .null, _ | .boolean _, _ | .string _, _ => trivial
  | .number m, _ => settled_ofNumber m
  | .array items, arranged => settled_ofJsonItems items arranged
  | .object entries, arranged => by
    refine ⟨?_, settled_ofJsonEntries entries arranged.2⟩
    rw [Entries.Distinct, keys_ofJsonEntries]
    exact arranged.1.distinct

theorem settled_ofJsonItems : (items : List Json) → ArrangedItems items →
    SettledItems (Value.ofJsonItems items)
  | [], _ => trivial
  | item :: rest, arranged =>
    ⟨settled_ofJson item arranged.1, settled_ofJsonItems rest arranged.2⟩

theorem settled_ofJsonEntries : (entries : List (String × Json)) → ArrangedEntries entries →
    SettledEntries (Value.ofJsonEntries entries)
  | [], _ => trivial
  | (_, value) :: rest, arranged =>
    ⟨settled_ofJson value arranged.1, settled_ofJsonEntries rest arranged.2⟩
end

/-- The values that are loaded: from texts, from files and from input. -/
inductive Loaded : Value → Prop where
  | document (loads : Document.parse text = .ok value) : Loaded value
  | lines (loads : Document.parseLines text = .ok value) : Loaded value
  | file (name : String) (content : Option (List UInt8))
      (loads : Document.load name content = .ok value) : Loaded value
  | input (bytes : List UInt8) (loads : Document.loadInput bytes = .ok value) : Loaded value

theorem settled_values {number : Nat} {nodes : List (Option Node)} {values : List Value}
    (loads : Document.values number nodes = .ok values) : SettledItems values := by
  induction nodes generalizing number values with
  | nil =>
    cases loads
    trivial
  | cons node rest ih =>
    cases node with
    | none => cases loads
    | some node =>
      rw [Document.values] at loads
      cases later : Document.values (number + 1) rest with
      | error error =>
        rw [later] at loads
        cases loads
      | ok others =>
        rw [later] at loads
        cases loads
        exact ⟨settled_ofYaml node, ih later⟩

theorem settled_documents {lines : List (List Char)} {jsons : List Json}
    (documents : JsonLines.Documents lines jsons) :
    SettledItems (jsons.map Value.ofJson) := by
  induction documents with
  | none => trivial
  | blank blank behind ih => exact ih
  | document visible holds behind ih =>
    obtain ⟨document, -, rfl, -⟩ := holds
    exact ⟨settled_ofJson _ (arranged_meaning document.source), ih⟩

theorem settled_parse {text : List Char} {value : Value}
    (loads : Document.parse text = .ok value) : Settled value := by
  rw [Document.parse] at loads
  cases values : Document.values 1 (Node.documents text) with
  | error error =>
    rw [values] at loads
    cases loads
  | ok loaded =>
    rw [values] at loads
    cases loads
    have settled := settled_values values
    match loaded, settled with
    | [], _ => trivial
    | [_], settled => exact settled.1
    | _ :: _ :: _, settled => exact settled

theorem settled_parseLines {text : List Char} {value : Value}
    (loads : Document.parseLines text = .ok value) : Settled value := by
  obtain ⟨lines, physical⟩ := JsonLines.lines_exist text
  cases (JsonLines.parseLines_iff physical).mp loads with
  | loaded documents nonempty => exact settled_documents documents

/-- An outcome that is right whatever its error would have been. -/
private theorem ok_of_mapError {result : Except ε α} {change : ε → ε'} {value : α}
    (right : result.mapError change = .ok value) : result = .ok value := by
  cases result with
  | ok other => cases right; rfl
  | error error => cases right

theorem settled_parseInput {text : List Char} {value : Value}
    (loads : Document.parseInput text = .ok value) : Settled value := by
  unfold Document.parseInput at loads
  split at loads
  · rename_i parsed parses
    cases loads
    exact settled_parse parses
  · exact settled_parseLines (ok_of_mapError loads)

theorem settled_loaded {value : Value} (loaded : Loaded value) : Settled value := by
  cases loaded with
  | document loads => exact settled_parse loads
  | lines loads => exact settled_parseLines loads
  | file name content loads =>
    rw [Document.load] at loads
    cases read : Document.readFile name content with
    | error error =>
      rw [read] at loads
      cases loads
    | ok text =>
      rw [read] at loads
      change (if Document.isLinesName name.toList then Document.parseLines text
        else (Document.parse text).mapError (.inFile name)) = .ok value at loads
      split at loads
      · exact settled_parseLines loads
      · exact settled_parse (ok_of_mapError loads)
  | input bytes loads =>
    rw [Document.loadInput] at loads
    cases read : Document.readInput bytes with
    | error error =>
      rw [read] at loads
      cases loads
    | ok text =>
      rw [read] at loads
      exact settled_parseInput loads

/-! ## Finite doubles -/

/-- Every double in the value is finite. -/
def Finite (objects : Objects) (value : Value) : Prop :=
  ∀ x, Part objects (.double x) value → x.isFinite = true

theorem not_nan_of_finite {x : Binary64} (finite : x.isFinite = true) : x.isNaN = false := by
  rw [Binary64.isFinite] at finite
  rw [Binary64.isNaN]
  split at finite
  · rename_i number
    rw [number]
    rfl
  · cases finite

section Finite
variable {objects : Objects}

theorem Finite.item {items : List Value} (finite : Finite objects (.list items)) :
    ∀ item ∈ items, Finite objects item :=
  fun _ member x part => finite x (.inList member part)

theorem Finite.held {entries : List (String × Value)} (finite : Finite objects (.map entries)) :
    ∀ entry ∈ entries, Finite objects entry.2 :=
  fun _ member x part => finite x (.inMap member part)

mutual
/-- A settled value with finite doubles is left as it is where others become null. -/
theorem finiteOrNull_of_finite : (value : Value) → Settled value → Finite objects value →
    finiteOrNull value = value
  | .double x, _, finite => by rw [finiteOrNull, if_pos (finite x .whole)]
  | .list items, settled, finite => by
    rw [finiteOrNull, finiteOrNullItems_of_finite items settled finite.item]
  | .map entries, settled, finite => by
    rw [finiteOrNull, finiteOrNullEntries_of_finite entries settled.2 finite.held]
  | .null, _, _ | .boolean _, _, _ | .int _, _, _ | .long _, _, _ | .string _, _, _ => rfl

theorem finiteOrNullItems_of_finite : (items : List Value) → SettledItems items →
    (∀ item ∈ items, Finite objects item) → finiteOrNullItems items = items
  | [], _, _ => rfl
  | item :: rest, settled, finite => by
    rw [finiteOrNullItems, finiteOrNull_of_finite item settled.1 (finite _ List.mem_cons_self),
      finiteOrNullItems_of_finite rest settled.2 fun other member =>
        finite other (List.mem_cons_of_mem _ member)]

theorem finiteOrNullEntries_of_finite : (entries : List (String × Value)) →
    SettledEntries entries → (∀ entry ∈ entries, Finite objects entry.2) →
      finiteOrNullEntries entries = entries
  | [], _, _ => rfl
  | (key, value) :: rest, settled, finite => by
    rw [finiteOrNullEntries,
      finiteOrNull_of_finite value settled.1 (finite (key, value) List.mem_cons_self),
      finiteOrNullEntries_of_finite rest settled.2 fun other member =>
        finite other (List.mem_cons_of_mem _ member)]
end

theorem nan_isNaN : Binary64.nan.isNaN = true := by decide

mutual
/-- Values that differ in the patterns of what is not a number at most do not
differ where all doubles are finite. -/
theorem eq_of_quiet : (other value : Value) → Finite objects value →
    quiet other = quiet value → other = value
  | .double y, value, finite, same => by
    cases value with
    | double x =>
      have number := not_nan_of_finite (finite x .whole)
      simp only [quiet, number, Bool.false_eq_true, if_false, Value.double.injEq] at same
      split at same
      · rw [← same, nan_isNaN] at number
        cases number
      · rw [same]
    | _ => simp [quiet] at same
  | .array others, value, finite, same => by
    cases value with
    | array items =>
      simp only [quiet, Value.array.injEq] at same
      rw [eq_of_quietItems others items
        (fun _ member x part => finite x (.inArray member part)) same]
    | _ => simp [quiet] at same
  | .list others, value, finite, same => by
    cases value with
    | list items =>
      simp only [quiet, Value.list.injEq] at same
      rw [eq_of_quietItems others items finite.item same]
    | _ => simp [quiet] at same
  | .map others, value, finite, same => by
    cases value with
    | map entries =>
      simp only [quiet, Value.map.injEq] at same
      rw [eq_of_quietEntries others entries finite.held same]
    | _ => simp [quiet] at same
  | .null, value, _, same | .boolean _, value, _, same | .byte _, value, _, same
  | .char _, value, _, same | .short _, value, _, same | .int _, value, _, same
  | .long _, value, _, same | .float _, value, _, same | .string _, value, _, same
  | .object _, value, _, same => by
    cases value <;> simp_all [quiet]

theorem eq_of_quietItems : (others items : List Value) →
    (∀ item ∈ items, Finite objects item) → quietItems others = quietItems items →
      others = items
  | [], [], _, _ => rfl
  | other :: others, item :: items, finite, same => by
    simp only [quietItems, List.cons.injEq] at same
    rw [eq_of_quiet other item (finite _ List.mem_cons_self) same.1,
      eq_of_quietItems others items (fun _ member => finite _ (List.mem_cons_of_mem _ member))
        same.2]
  | [], _ :: _, _, same => by cases same
  | _ :: _, [], _, same => by cases same

theorem eq_of_quietEntries : (others entries : List (String × Value)) →
    (∀ entry ∈ entries, Finite objects entry.2) → quietEntries others = quietEntries entries →
      others = entries
  | [], [], _, _ => rfl
  | (name, other) :: others, (key, value) :: entries, finite, same => by
    simp only [quietEntries, List.cons.injEq, Prod.mk.injEq] at same
    rw [same.1.1, eq_of_quiet other value (finite (key, value) List.mem_cons_self) same.1.2,
      eq_of_quietEntries others entries (fun _ member => finite _ (List.mem_cons_of_mem _ member))
        same.2]
  | [], _ :: _, _, same => by cases same
  | _ :: _, [], _, same => by cases same
end

end Finite

/-! ## Writing and loading -/

/-- A tree is read back as this value. In YAML that is all but the patterns of what
is not a number; in JSON the keys of maps are in order, and null stands for the
doubles that are not finite. -/
structure ReadsBackAs (tree : Tree) (value : Value) : Prop where
  yamlReads : ∃ node, YamlReads tree node
  yaml : ∀ node, YamlReads tree node → quiet (Value.ofYaml node) = quiet value
  jsonReads : ∃ json, JsonReads tree json
  json : ∀ json, JsonReads tree json →
    (Value.ofJson json).equals (finiteOrNull value) = true ∧ SortedKeys (Value.ofJson json)

theorem readsBackAs_ofTree {tree : Tree} (plain : Plain tree) : ReadsBackAs tree (ofTree tree) where
  yamlReads := yaml_exists tree plain
  yaml node reads := quiet_ofYaml tree node plain reads
  jsonReads := json_exists tree plain
  json json reads := equals_ofJson tree json plain reads

/-- Writing a value and loading what was written gives the normal form of the
value, which is its own normal form. So a value that was loaded, with doubles that
are finite, is loaded again as it is. -/
theorem reloading_gives_normal_form :
    (∀ (objects : Objects) (depth : Nat) (value : Value), Built objects →
      Documentary objects value → (objects.tree depth value).isSome →
      ∃ tree kept, objects.tree depth value = some tree ∧
        normal objects depth value = some kept ∧ ReadsBackAs tree kept ∧
        ∀ more, normal objects more kept = some kept) ∧
    ∀ (value : Value), Loaded value → ∀ (objects : Objects) (depth : Nat), Finite objects value →
      normal objects depth value = some value ∧
      ∃ tree, objects.tree depth value = some tree ∧ ReadsBackAs tree value ∧
        (∀ node, YamlReads tree node → Value.ofYaml node = value) ∧
        ∀ json, JsonReads tree json → (Value.ofJson json).equals value = true := by
  constructor
  · intro objects depth value built documentary shallow
    obtain ⟨tree, written⟩ := Option.isSome_iff_exists.mp shallow
    have plain := plain_tree built documentary written
    refine ⟨tree, ofTree tree, written, ?_, readsBackAs_ofTree plain, fun more =>
      normal_of_settled objects more (settled_ofTree tree plain)⟩
    rw [normal_eq_ofTree, written, Option.map_some]
  · intro value loaded objects depth finite
    have settled := settled_loaded loaded
    obtain ⟨tree, written, plain, same⟩ := written_of_settled objects depth settled
    have readsBack : ReadsBackAs tree value := same ▸ readsBackAs_ofTree plain
    refine ⟨normal_of_settled objects depth settled, tree, written, readsBack, ?_, ?_⟩
    · intro node reads
      exact eq_of_quiet _ _ finite (readsBack.yaml node reads)
    · intro json reads
      have equal := (readsBack.json json reads).1
      rwa [finiteOrNull_of_finite value settled finite] at equal

theorem built_records (records : List Record) : Built (Record.objects records) := by
  intro id
  cases present : records[id]? with
  | some record =>
    refine ⟨Record, Record.receiver records record.concreteType, record.typeName,
      record.registrations, ?_⟩
    rw [Record.objects, present]
    rfl
  | none =>
    refine ⟨Record, fun _ => none, "Object", [], ?_⟩
    rw [Record.objects, present]
    rfl

/-- An object with a field. -/
def gauge : Record := ⟨"gauge", "Gauge", [], [("level", .short 3)], [], none, "Gauge"⟩

/-- An object without fields that can be iterated. -/
def shelf : Record :=
  ⟨"shelf", "Shelf", [], [], [], some [.char 'x', .double Binary64.nan], "Shelf"⟩

/-- The parts of a shelf and a gauge with a long number between them. -/
private theorem parts_of_shelf_and_gauge {part : Value}
    (inside : Part (Record.objects [gauge, shelf]) part
      (.map [("shelf", .object 1), ("total", .long 5), ("gauge", .object 0)])) :
    part ∈ [Value.map [("shelf", .object 1), ("total", .long 5), ("gauge", .object 0)],
      .object 1, .long 5, .object 0, .char 'x', .double Binary64.nan, .short 3] := by
  have shelfFields : (Record.objects [gauge, shelf] 1).info.fields = [] := rfl
  have shelfItems : (Record.objects [gauge, shelf] 1).items =
    some [.char 'x', .double Binary64.nan] := rfl
  have gaugeItems : (Record.objects [gauge, shelf] 0).items = none := rfl
  have level : ∀ field ∈ (Record.objects [gauge, shelf] 0).info.fields,
      field.read (.object 0) = some (.short 3) := by
    intro field member
    rcases List.mem_singleton.mp member with rfl
    rfl
  cases inside with
  | whole => simp
  | inMap member inside =>
    simp only [List.mem_cons, Prod.mk.injEq, List.not_mem_nil, or_false] at member
    rcases member with ⟨-, rfl⟩ | ⟨-, rfl⟩ | ⟨-, rfl⟩
    · cases inside with
      | whole => simp
      | inItems bare iterable member inside =>
        rw [shelfItems] at iterable
        cases iterable
        simp only [List.mem_cons, List.not_mem_nil, or_false] at member
        rcases member with rfl | rfl <;> cases inside <;> simp
      | inField member read inside =>
        rw [shelfFields] at member
        cases member
    · cases inside
      simp
    · cases inside with
      | whole => simp
      | inItems bare iterable member inside =>
        rw [gaugeItems] at iterable
        cases iterable
      | inField member read inside =>
        rw [level _ member] at read
        cases read
        cases inside
        simp

/-- A line that is loaded. -/
private theorem loaded_line : Loaded (.list [.list [.boolean true, .null]]) := by
  let line : JsonGrammar.Document := ⟨⟨[], by simp⟩,
    .array (.more ⟨[], by simp⟩ (.boolean true) ⟨[], by simp⟩
      (.last ⟨[], by simp⟩ .null ⟨[], by simp⟩)), ⟨[], by simp⟩⟩
  have text : line.text = "[true,null]".toList := rfl
  have lines : Text.lines "[true,null]".toList = ["[true,null]".toList] := by decide
  have read : Json.parse? "[true,null]".toList = some (.array [.boolean true, .null]) :=
    JsonReading.parse_iff.mpr ⟨line, text, rfl, by decide⟩
  have visible : ¬ Text.isBlankText "[true,null]".toList = true := by decide
  have loads : Document.parseLines "[true,null]".toList =
      .ok (.list [.list [.boolean true, .null]]) := by
    rw [Document.parseLines, lines, Document.lineValues, if_neg visible, read]
    rfl
  exact .lines loads

/-- A shelf and a gauge with a long number between them, and a line that was loaded. -/
theorem shelf_and_gauge_reload :
    let objects := Record.objects [gauge, shelf]
    let value : Value := .map [("shelf", .object 1), ("total", .long 5), ("gauge", .object 0)]
    let kept : Value := .map [("shelf", .list [.string "x", .double Binary64.nan]),
      ("total", .int 5), ("gauge", .map [("level", .int 3)])]
    let line : Value := .list [.list [.boolean true, .null]]
    Built objects ∧ Documentary objects value ∧ (objects.tree 1 value).isSome ∧
      (∃ tree, objects.tree 1 value = some tree ∧ ReadsBackAs tree kept) ∧
      normal objects 1 value = some kept ∧ normal objects 0 kept = some kept ∧
      Loaded line ∧ Finite objects line ∧
      ∃ tree, objects.tree 0 line = some tree ∧
        ∀ node, YamlReads tree node → Value.ofYaml node = line := by
  intro objects value kept line
  have built : Built objects := built_records _
  have documentary : Documentary objects value := by
    constructor
    · intro x inside
      simpa using parts_of_shelf_and_gauge inside
    · intro entries inside
      have same : entries = [("shelf", .object 1), ("total", .long 5), ("gauge", .object 0)] := by
        simpa using parts_of_shelf_and_gauge inside
      rw [same, Entries.Distinct]
      decide
  have shallow : (objects.tree 1 value).isSome := rfl
  have normalizes : normal objects 1 value = some kept := rfl
  have loaded : Loaded line := loaded_line
  have finite : Finite objects (.list [.list [.boolean true, .null]]) := by
    intro x inside
    cases inside with
    | inList member inside =>
      rcases List.mem_singleton.mp member with rfl
      cases inside with
      | inList member inside =>
        simp only [List.mem_cons, List.not_mem_nil, or_false] at member
        rcases member with rfl | rfl <;> cases inside
  obtain ⟨tree, same, written, normal_kept, readsBack, again⟩ :=
    reloading_gives_normal_form.1 objects 1 value built documentary shallow
  obtain ⟨-, lineTree, lineWritten, -, yaml, -⟩ :=
    reloading_gives_normal_form.2 line loaded objects 0 finite
  cases normal_kept.symm.trans normalizes
  exact ⟨built, documentary, shallow, ⟨tree, written, readsBack⟩, normalizes, again 0, loaded,
    finite, lineTree, lineWritten, yaml⟩

end ValuePath.Reloading
