import Mathlib.Algebra.Group.Int.Defs
import ValuePath.Document.Tree
import ValuePath.Proofs.DistinctKeys
import ValuePath.Proofs.MemberTables

/-! The normal form of values: what is left of a value when all that a document
does not tell apart is dropped, the widths of integers, the two kinds of
sequences, characters and objects. The normal form of a value can be read off
the tree that it is written as, and it is its own normal form. -/
namespace ValuePath.NormalValues
open DistinctKeys

/-- An integer in the narrower of two widths that it fits in. -/
def narrowed (n : Int) : Value :=
  if -2 ^ 31 ≤ n ∧ n < 2 ^ 31 then .int (Int32.ofInt n) else .long (Int64.ofInt n)

mutual
/-- The normal form of a value, given those of the objects in it. -/
def normalWith (objectNormal : ObjectId → Option Value) : Value → Option Value
  | .byte n => some (narrowed n.toInt)
  | .short n => some (narrowed n.toInt)
  | .int n => some (narrowed n.toInt)
  | .long n => some (narrowed n.toInt)
  | .char c => some (.string (String.singleton c))
  | .array items | .list items => (normalsWith objectNormal items).map .list
  | .map entries => (normalEntriesWith objectNormal entries).map .map
  | .object id => objectNormal id
  | .null => some .null
  | .boolean b => some (.boolean b)
  | .float x => some (.float x)
  | .double x => some (.double x)
  | .string text => some (.string text)

def normalsWith (objectNormal : ObjectId → Option Value) : List Value → Option (List Value)
  | [] => some []
  | item :: rest => do
    let first ← normalWith objectNormal item
    let others ← normalsWith objectNormal rest
    return first :: others

def normalEntriesWith (objectNormal : ObjectId → Option Value) :
    List (String × Value) → Option (List (String × Value))
  | [] => some []
  | (key, value) :: rest => do
    let first ← normalWith objectNormal value
    let others ← normalEntriesWith objectNormal rest
    return (key, first) :: others
end

/-- The normal form of a value in which objects nest at most `depth` deep. An
object becomes the list of its items if it has none but them, and else the map
of its fields. -/
def normal (objects : Objects) : (depth : Nat) → Value → Option Value
  | 0 => normalWith fun _ => none
  | depth + 1 => normalWith fun id =>
    match (objects id).info.fields, (objects id).items with
    | [], some items => normal objects depth (.list items)
    | fields, _ => normal objects depth
      (.map (fields.map fun field => (field.name, (field.read (.object id)).getD .null)))

/-- A value that is written as part of another one: among its items, its
entries, the items of an object without fields or what its fields hold. -/
inductive Part (objects : Objects) (part : Value) : Value → Prop where
  | whole : Part objects part part
  | inArray (member : item ∈ items) (inside : Part objects part item) :
      Part objects part (.array items)
  | inList (member : item ∈ items) (inside : Part objects part item) :
      Part objects part (.list items)
  | inMap (member : (key, value) ∈ entries) (inside : Part objects part value) :
      Part objects part (.map entries)
  | inItems {id : ObjectId} (bare : (objects id).info.fields = [])
      (iterable : (objects id).items = some items) (member : item ∈ items)
      (inside : Part objects part item) : Part objects part (.object id)
  | inField {id : ObjectId} (member : field ∈ (objects id).info.fields)
      (read : field.read (.object id) = some value) (inside : Part objects part value) :
      Part objects part (.object id)

/-! ## Reading the normal form off a tree -/

mutual
/-- The value that a tree stands for. -/
def ofTree : Tree → Value
  | .null => .null
  | .boolean b => .boolean b
  | .integer n => narrowed n
  | .character c => .string (String.singleton c)
  | .single x => .float x
  | .double x => .double x
  | .text text => .string text
  | .sequence items => .list (ofTrees items)
  | .mapping entries => .map (ofEntryTrees entries)

def ofTrees : List Tree → List Value
  | [] => []
  | item :: rest => ofTree item :: ofTrees rest

def ofEntryTrees : List (String × Tree) → List (String × Value)
  | [] => []
  | (key, value) :: rest => (key, ofTree value) :: ofEntryTrees rest
end

section Reading
variable {objectNormal : ObjectId → Option Value} {objectTree : ObjectId → Option Tree}

mutual
private theorem normalWith_eq (agree : ∀ id, objectNormal id = (objectTree id).map ofTree) :
    (value : Value) → normalWith objectNormal value = (value.treeWith objectTree).map ofTree
  | .array items | .list items => by
    simp only [normalWith, Value.treeWith, normalsWith_eq agree items, Option.map_map]
    rfl
  | .map entries => by
    simp only [normalWith, Value.treeWith, normalEntriesWith_eq agree entries, Option.map_map]
    rfl
  | .object id => agree id
  | .null | .boolean _ | .byte _ | .char _ | .short _ | .int _ | .long _ | .float _ | .double _
  | .string _ => rfl

private theorem normalsWith_eq (agree : ∀ id, objectNormal id = (objectTree id).map ofTree) :
    (items : List Value) →
      normalsWith objectNormal items = (Value.treesWith objectTree items).map ofTrees
  | [] => rfl
  | item :: rest => by
    simp only [normalsWith, Value.treesWith, normalWith_eq agree item, normalsWith_eq agree rest]
    cases item.treeWith objectTree <;> cases Value.treesWith objectTree rest <;> rfl

private theorem normalEntriesWith_eq (agree : ∀ id, objectNormal id = (objectTree id).map ofTree) :
    (entries : List (String × Value)) → normalEntriesWith objectNormal entries =
      (Value.entryTreesWith objectTree entries).map ofEntryTrees
  | [] => rfl
  | (key, value) :: rest => by
    simp only [normalEntriesWith, Value.entryTreesWith, normalWith_eq agree value,
      normalEntriesWith_eq agree rest]
    cases value.treeWith objectTree <;> cases Value.entryTreesWith objectTree rest <;> rfl
end

/-- A value has a normal form just where it has a tree, and the tree stands for it. -/
theorem normal_eq_ofTree (objects : Objects) (depth : Nat) (value : Value) :
    normal objects depth value = (objects.tree depth value).map ofTree := by
  induction depth generalizing value with
  | zero =>
    have unwritten (_ : ObjectId) : (none : Option Value) = (none : Option Tree).map ofTree := rfl
    exact normalWith_eq unwritten value
  | succ depth ih =>
    change normalWith _ value =
      (value.treeWith fun id => objects.tree depth (objects.outline id)).map ofTree
    refine normalWith_eq (fun id => ?_) value
    rw [← ih]
    cases fields : (objects id).info.fields <;> cases iterable : (objects id).items <;>
      simp only [Objects.outline, fields, iterable]

end Reading

/-! ## Trees of documents -/

mutual
/-- A tree without numbers of 32 bits, with integers of 64 bits, and with
distinct keys in every mapping. -/
def Plain : Tree → Prop
  | .integer n => -2 ^ 63 ≤ n ∧ n < 2 ^ 63
  | .single _ => False
  | .sequence items => PlainItems items
  | .mapping entries => Entries.Distinct entries ∧ PlainEntries entries
  | .null | .boolean _ | .character _ | .double _ | .text _ => True

def PlainItems : List Tree → Prop
  | [] => True
  | item :: rest => Plain item ∧ PlainItems rest

def PlainEntries : List (String × Tree) → Prop
  | [] => True
  | (_, value) :: rest => Plain value ∧ PlainEntries rest
end

/-- Every member table was built from registrations. -/
def Built (objects : Objects) : Prop :=
  ∀ id, ∃ (τ : Type) (receiver : Value → Option τ) (name : String) (log : List (Registration τ)),
    (objects id).info = TypeInfo.build name receiver log

/-- No part of the value is a number of 32 bits, and no map in it repeats a key. -/
structure Documentary (objects : Objects) (value : Value) : Prop where
  floatless : ∀ x, ¬ Part objects (.float x) value
  distinct : ∀ entries, Part objects (.map entries) value → Entries.Distinct entries

section Written
variable {objects : Objects}

/-- The parts of a part are parts of the whole. -/
theorem Documentary.part {part value : Value} (documentary : Documentary objects value)
    (inside : ∀ sought, Part objects sought part → Part objects sought value) :
    Documentary objects part where
  floatless x held := documentary.floatless x (inside _ held)
  distinct entries held := documentary.distinct entries (inside _ held)

theorem keys_entryTreesWith {objectTree : ObjectId → Option Tree}
    {entries : List (String × Value)} {trees : List (String × Tree)}
    (written : Value.entryTreesWith objectTree entries = some trees) :
    Entries.keys trees = Entries.keys entries := by
  induction entries generalizing trees with
  | nil => cases written; rfl
  | cons entry rest ih =>
    obtain ⟨key, value⟩ := entry
    simp only [Value.entryTreesWith, Option.bind_eq_bind, Option.bind_eq_some_iff,
      Option.pure_def, Option.some.injEq] at written
    obtain ⟨first, -, others, rest_written, rfl⟩ := written
    rw [keys_cons, keys_cons, ih rest_written]

section Values
variable {objectTree : ObjectId → Option Tree}

mutual
private theorem plain_treeWith (plainObjects : ∀ id tree, Documentary objects (.object id) →
    objectTree id = some tree → Plain tree) : (value : Value) → (tree : Tree) →
    Documentary objects value → value.treeWith objectTree = some tree → Plain tree
  | .object id, tree, documentary, written => plainObjects id tree documentary written
  | .array items, tree, documentary, written => by
    obtain ⟨trees, inside, rfl⟩ := Option.map_eq_some_iff.mp written
    exact plain_treesWith plainObjects items trees
      (fun item member => documentary.part fun _ part => .inArray member part) inside
  | .list items, tree, documentary, written => by
    obtain ⟨trees, inside, rfl⟩ := Option.map_eq_some_iff.mp written
    exact plain_treesWith plainObjects items trees
      (fun item member => documentary.part fun _ part => .inList member part) inside
  | .map entries, tree, documentary, written => by
    obtain ⟨trees, inside, rfl⟩ := Option.map_eq_some_iff.mp written
    refine ⟨?_, plain_entryTreesWith plainObjects entries trees
      (fun entry member => documentary.part fun _ part => .inMap member part) inside⟩
    rw [Entries.Distinct, keys_entryTreesWith inside]
    exact documentary.distinct entries .whole
  | .float x, _, documentary, _ => absurd .whole (documentary.floatless x)
  | .byte n, tree, _, written => by
    cases written
    have := n.le_toInt
    have := n.toInt_lt
    exact ⟨by omega, by omega⟩
  | .short n, tree, _, written => by
    cases written
    have := n.le_toInt
    have := n.toInt_lt
    exact ⟨by omega, by omega⟩
  | .int n, tree, _, written => by
    cases written
    have := n.le_toInt
    have := n.toInt_lt
    exact ⟨by omega, by omega⟩
  | .long n, tree, _, written => by
    cases written
    exact ⟨n.le_toInt, n.toInt_lt⟩
  | .null, _, _, written | .boolean _, _, _, written | .char _, _, _, written
  | .double _, _, _, written | .string _, _, _, written => by
    cases written
    trivial

private theorem plain_treesWith (plainObjects : ∀ id tree, Documentary objects (.object id) →
    objectTree id = some tree → Plain tree) : (items : List Value) → (trees : List Tree) →
    (∀ item ∈ items, Documentary objects item) → Value.treesWith objectTree items = some trees →
      PlainItems trees
  | [], _, _, written => by
    cases written
    trivial
  | item :: rest, trees, documentary, written => by
    simp only [Value.treesWith, Option.bind_eq_bind, Option.bind_eq_some_iff, Option.pure_def,
      Option.some.injEq] at written
    obtain ⟨first, item_written, others, rest_written, rfl⟩ := written
    exact ⟨plain_treeWith plainObjects item first (documentary _ List.mem_cons_self) item_written,
      plain_treesWith plainObjects rest others
        (fun other member => documentary other (List.mem_cons_of_mem _ member)) rest_written⟩

private theorem plain_entryTreesWith (plainObjects : ∀ id tree,
    Documentary objects (.object id) → objectTree id = some tree → Plain tree) :
    (entries : List (String × Value)) → (trees : List (String × Tree)) →
      (∀ entry ∈ entries, Documentary objects entry.2) →
      Value.entryTreesWith objectTree entries = some trees → PlainEntries trees
  | [], _, _, written => by
    cases written
    trivial
  | (key, value) :: rest, trees, documentary, written => by
    simp only [Value.entryTreesWith, Option.bind_eq_bind, Option.bind_eq_some_iff, Option.pure_def,
      Option.some.injEq] at written
    obtain ⟨first, value_written, others, rest_written, rfl⟩ := written
    exact ⟨plain_treeWith plainObjects value first (documentary _ List.mem_cons_self) value_written,
      plain_entryTreesWith plainObjects rest others
        (fun other member => documentary other (List.mem_cons_of_mem _ member)) rest_written⟩
end

end Values

/-- The fields of an object as they are written. -/
private def fieldEntries (objects : Objects) (id : ObjectId) : List (String × Value) :=
  (objects id).info.fields.map fun field => (field.name, (field.read (.object id)).getD .null)

private theorem outline_cases (objects : Objects) (id : ObjectId) :
    (∃ items, (objects id).info.fields = [] ∧ (objects id).items = some items ∧
      objects.outline id = .list items) ∨ objects.outline id = .map (fieldEntries objects id) := by
  cases bare : (objects id).info.fields <;> cases iterable : (objects id).items <;>
    simp [Objects.outline, fieldEntries, bare, iterable]

/-- What stands in the outline of an object is a part of the object, but for the
outline itself and the nulls in it. -/
private theorem part_outline {sought : Value} {id : ObjectId}
    (inside : Part objects sought (objects.outline id)) :
    sought = objects.outline id ∨ sought = .null ∨ Part objects sought (.object id) := by
  rcases outline_cases objects id with ⟨items, bare, iterable, outlined⟩ | outlined
  · rw [outlined] at inside ⊢
    cases inside with
    | whole => exact .inl rfl
    | inList member inside => exact .inr (.inr (.inItems bare iterable member inside))
  · rw [outlined] at inside ⊢
    cases inside with
    | whole => exact .inl rfl
    | inMap member inside =>
      obtain ⟨field, field_member, same⟩ := List.mem_map.mp member
      cases same
      cases read : field.read (.object id) with
      | some value =>
        rw [read] at inside
        exact .inr (.inr (.inField field_member read inside))
      | none =>
        rw [read] at inside
        cases inside
        exact .inr (.inl rfl)

private theorem keys_of_fields (built : Built objects) (id : ObjectId) :
    ((objects id).info.fields.map Field.name).Nodup := by
  obtain ⟨τ, receiver, name, log, info⟩ := built id
  rw [info]
  have named : (TypeInfo.build name receiver log).fields.map Field.name =
      Entries.keys (TypeInfo.build name receiver log).fieldTable := by
    simp only [TypeInfo.fields, Entries.values, Entries.keys, List.map_map]
    exact List.map_congr_left fun entry member =>
      (MemberTables.build_fields name receiver log entry member).1
  rw [named]
  exact MemberTables.build_distinct name receiver log

theorem documentary_outline (built : Built objects) {id : ObjectId}
    (documentary : Documentary objects (.object id)) :
    Documentary objects (objects.outline id) := by
  constructor
  · intro x inside
    rcases part_outline inside with same | same | part
    · rcases outline_cases objects id with ⟨items, -, -, outlined⟩ | outlined <;>
        exact absurd (same.trans outlined) (by simp)
    · cases same
    · exact documentary.floatless x part
  · intro entries inside
    rcases part_outline inside with same | same | part
    · rcases outline_cases objects id with ⟨items, -, -, outlined⟩ | outlined
      · exact absurd (same.trans outlined) (by simp)
      · cases same.trans outlined
        simpa [Entries.Distinct, Entries.keys, fieldEntries, Function.comp_def] using
          keys_of_fields built id
    · cases same
    · exact documentary.distinct entries part

theorem plain_tree (built : Built objects) {depth : Nat} {value : Value} {tree : Tree}
    (documentary : Documentary objects value) (written : objects.tree depth value = some tree) :
    Plain tree := by
  induction depth generalizing value tree with
  | zero =>
    exact plain_treeWith (fun id tree _ none => by cases none) value tree documentary written
  | succ depth ih =>
    exact plain_treeWith (fun id tree documentary inside =>
      ih (documentary_outline built documentary) inside) value tree documentary written

end Written

/-! ## Normal forms -/

mutual
/-- A value that is left as it is: long only where it has to be, in lists and in
maps without repeated keys. -/
def Settled : Value → Prop
  | .null | .boolean _ | .int _ | .double _ | .string _ => True
  | .long n => ¬ (-2 ^ 31 ≤ n.toInt ∧ n.toInt < 2 ^ 31)
  | .list items => SettledItems items
  | .map entries => Entries.Distinct entries ∧ SettledEntries entries
  | .byte _ | .char _ | .short _ | .float _ | .array _ | .object _ => False

def SettledItems : List Value → Prop
  | [] => True
  | item :: rest => Settled item ∧ SettledItems rest

def SettledEntries : List (String × Value) → Prop
  | [] => True
  | (_, value) :: rest => Settled value ∧ SettledEntries rest
end

theorem settled_narrowed {n : Int} (low : -2 ^ 63 ≤ n) (high : n < 2 ^ 63) :
    Settled (narrowed n) := by
  unfold narrowed
  split
  · trivial
  · rename_i wide
    rwa [Settled, Int64.toInt_ofInt_of_le low high]

theorem narrowed_toInt_int (n : Int32) : narrowed n.toInt = .int n := by
  have low := n.le_toInt
  have high := n.toInt_lt
  rw [narrowed, if_pos ⟨low, high⟩, Int32.ofInt_toInt]

theorem narrowed_toInt_long {n : Int64} (wide : ¬ (-2 ^ 31 ≤ n.toInt ∧ n.toInt < 2 ^ 31)) :
    narrowed n.toInt = .long n := by
  rw [narrowed, if_neg wide, Int64.ofInt_toInt]

theorem keys_ofEntryTrees (trees : List (String × Tree)) :
    Entries.keys (ofEntryTrees trees) = Entries.keys trees := by
  induction trees with
  | nil => rfl
  | cons tree rest ih => rw [ofEntryTrees, keys_cons, ih, keys_cons]

mutual
/-- What a tree of a document stands for is settled. -/
theorem settled_ofTree : (tree : Tree) → Plain tree → Settled (ofTree tree)
  | .integer _, plain => settled_narrowed plain.1 plain.2
  | .sequence items, plain => settled_ofTrees items plain
  | .mapping entries, plain => by
    refine ⟨?_, settled_ofEntryTrees entries plain.2⟩
    rw [Entries.Distinct, keys_ofEntryTrees]
    exact plain.1
  | .null, _ | .boolean _, _ | .character _, _ | .double _, _ | .text _, _ => trivial

theorem settled_ofTrees : (trees : List Tree) → PlainItems trees → SettledItems (ofTrees trees)
  | [], _ => trivial
  | tree :: rest, plain => ⟨settled_ofTree tree plain.1, settled_ofTrees rest plain.2⟩

theorem settled_ofEntryTrees : (trees : List (String × Tree)) → PlainEntries trees →
    SettledEntries (ofEntryTrees trees)
  | [], _ => trivial
  | (_, tree) :: rest, plain => ⟨settled_ofTree tree plain.1, settled_ofEntryTrees rest plain.2⟩
end

section Trees
variable (objectTree : ObjectId → Option Tree)

mutual
/-- A settled value is what its tree stands for. -/
theorem tree_of_settled : (value : Value) → Settled value →
    ∃ tree, value.treeWith objectTree = some tree ∧ Plain tree ∧ ofTree tree = value
  | .null, _ => ⟨.null, rfl, trivial, rfl⟩
  | .boolean b, _ => ⟨.boolean b, rfl, trivial, rfl⟩
  | .int n, _ => by
    have low := n.le_toInt
    have high := n.toInt_lt
    exact ⟨.integer n.toInt, rfl, ⟨by omega, by omega⟩, narrowed_toInt_int n⟩
  | .long n, wide => ⟨.integer n.toInt, rfl, ⟨n.le_toInt, n.toInt_lt⟩, narrowed_toInt_long wide⟩
  | .double x, _ => ⟨.double x, rfl, trivial, rfl⟩
  | .string text, _ => ⟨.text text, rfl, trivial, rfl⟩
  | .list items, settled => by
    obtain ⟨trees, written, plain, same⟩ := trees_of_settled items settled
    exact ⟨.sequence trees, by rw [Value.treeWith, written]; rfl, plain, by rw [ofTree, same]⟩
  | .map entries, settled => by
    obtain ⟨trees, written, plain, same⟩ := entryTrees_of_settled entries settled.2
    refine ⟨.mapping trees, by rw [Value.treeWith, written]; rfl, ⟨?_, plain⟩, by rw [ofTree, same]⟩
    rw [Entries.Distinct, keys_entryTreesWith written]
    exact settled.1

theorem trees_of_settled : (items : List Value) → SettledItems items →
    ∃ trees, Value.treesWith objectTree items = some trees ∧ PlainItems trees ∧
      ofTrees trees = items
  | [], _ => ⟨[], rfl, trivial, rfl⟩
  | item :: rest, settled => by
    obtain ⟨tree, written, plain, same⟩ := tree_of_settled item settled.1
    obtain ⟨trees, others_written, others_plain, others_same⟩ := trees_of_settled rest settled.2
    refine ⟨tree :: trees, ?_, ⟨plain, others_plain⟩, by rw [ofTrees, same, others_same]⟩
    rw [Value.treesWith, written, others_written]
    rfl

theorem entryTrees_of_settled : (entries : List (String × Value)) → SettledEntries entries →
    ∃ trees, Value.entryTreesWith objectTree entries = some trees ∧ PlainEntries trees ∧
      ofEntryTrees trees = entries
  | [], _ => ⟨[], rfl, trivial, rfl⟩
  | (key, value) :: rest, settled => by
    obtain ⟨tree, written, plain, same⟩ := tree_of_settled value settled.1
    obtain ⟨trees, others_written, others_plain, others_same⟩ :=
      entryTrees_of_settled rest settled.2
    refine ⟨(key, tree) :: trees, ?_, ⟨plain, others_plain⟩, by
      rw [ofEntryTrees, same, others_same]⟩
    rw [Value.entryTreesWith, written, others_written]
    rfl
end

end Trees

/-- A settled value has a tree whatever the bound on the depth of objects is, and
that tree stands for the value. -/
theorem written_of_settled (objects : Objects) (depth : Nat) {value : Value}
    (settled : Settled value) :
    ∃ tree, objects.tree depth value = some tree ∧ Plain tree ∧ ofTree tree = value := by
  cases depth <;> exact tree_of_settled _ value settled

theorem normal_of_settled (objects : Objects) (depth : Nat) {value : Value}
    (settled : Settled value) : normal objects depth value = some value := by
  obtain ⟨tree, written, -, same⟩ := written_of_settled objects depth settled
  rw [normal_eq_ofTree, written, Option.map_some, same]

end ValuePath.NormalValues
