import Mathlib.Data.List.Forall2
import ValuePath.Document.Tree

/-! The tree that a value is written as. A value has at most one, whatever
depth it is written with, and the tree has the shape of the value: sequences
for sequences, mappings with the same keys for maps, and for an object the tree
of its outline. -/
namespace ValuePath.WrittenTrees

variable {objects : Objects}

/-- The value is written as this tree: objects nest in it to some depth. -/
def Written (objects : Objects) (value : Value) (tree : Tree) : Prop :=
  ∃ depth, objects.tree depth value = some tree

/-- What an object gives within a bound on depth. -/
private def objectTree (objects : Objects) : Nat → ObjectId → Option Tree
  | 0, _ => none
  | depth + 1, id => objects.tree depth (objects.outline id)

private theorem tree_eq_treeWith (depth : Nat) (value : Value) :
    objects.tree depth value = value.treeWith (objectTree objects depth) := by
  cases depth <;> rfl

/-! ## One tree -/

section Growing
variable {first second : ObjectId → Option Tree}

mutual
private theorem treeWith_grows (grows : ∀ id tree, first id = some tree → second id = some tree) :
    (value : Value) → (tree : Tree) → value.treeWith first = some tree →
      value.treeWith second = some tree
  | .object id, tree, written => grows id tree written
  | .array items, tree, written | .list items, tree, written => by
    simp only [Value.treeWith, Option.map_eq_some_iff] at written ⊢
    obtain ⟨trees, inside, rfl⟩ := written
    exact ⟨trees, treesWith_grows grows items trees inside, rfl⟩
  | .map entries, tree, written => by
    simp only [Value.treeWith, Option.map_eq_some_iff] at written ⊢
    obtain ⟨trees, inside, rfl⟩ := written
    exact ⟨trees, entryTreesWith_grows grows entries trees inside, rfl⟩
  | .null, _, written | .boolean _, _, written | .byte _, _, written | .char _, _, written
  | .short _, _, written | .int _, _, written | .long _, _, written | .float _, _, written
  | .double _, _, written | .string _, _, written => written

private theorem treesWith_grows (grows : ∀ id tree, first id = some tree → second id = some tree) :
    (items : List Value) → (trees : List Tree) → Value.treesWith first items = some trees →
      Value.treesWith second items = some trees
  | [], _, written => written
  | item :: rest, trees, written => by
    simp only [Value.treesWith, Option.bind_eq_bind, Option.bind_eq_some_iff] at written ⊢
    obtain ⟨head, headWritten, others, othersWritten, same⟩ := written
    exact ⟨head, treeWith_grows grows item head headWritten, others,
      treesWith_grows grows rest others othersWritten, same⟩

private theorem entryTreesWith_grows
    (grows : ∀ id tree, first id = some tree → second id = some tree) :
    (entries : List (String × Value)) → (trees : List (String × Tree)) →
      Value.entryTreesWith first entries = some trees →
      Value.entryTreesWith second entries = some trees
  | [], _, written => written
  | (key, value) :: rest, trees, written => by
    simp only [Value.entryTreesWith, Option.bind_eq_bind, Option.bind_eq_some_iff] at written ⊢
    obtain ⟨head, headWritten, others, othersWritten, same⟩ := written
    exact ⟨head, treeWith_grows grows value head headWritten, others,
      entryTreesWith_grows grows rest others othersWritten, same⟩
end

end Growing

/-- A value that is written within a bound is written the same beyond it. -/
theorem tree_grows (objects : Objects) (depth : Nat) : ∀ value tree,
    objects.tree depth value = some tree → objects.tree (depth + 1) value = some tree := by
  induction depth with
  | zero =>
    intro value tree written
    rw [tree_eq_treeWith] at written ⊢
    exact treeWith_grows (fun id tree none => by cases none) value tree written
  | succ depth ih =>
    intro value tree written
    rw [tree_eq_treeWith] at written ⊢
    exact treeWith_grows (fun id tree inside => ih _ tree inside) value tree written

/-- A value is written as one tree at most. -/
theorem written_unique (written : Written objects value tree) (also : Written objects value other) :
    tree = other := by
  have later : ∀ {depth value tree}, objects.tree depth value = some tree → ∀ more,
      objects.tree (depth + more) value = some tree := by
    intro depth value tree written more
    induction more with
    | zero => exact written
    | succ more ih => exact tree_grows objects _ value tree ih
  obtain ⟨depth, written⟩ := written
  obtain ⟨otherDepth, also⟩ := also
  have first := later written otherDepth
  have second := later also depth
  rw [Nat.add_comm, second] at first
  cases first
  rfl

/-! ## Shapes -/

private theorem treesWith_iff (objectTree : ObjectId → Option Tree) (items : List Value)
    (trees : List Tree) : Value.treesWith objectTree items = some trees ↔
      List.Forall₂ (fun item tree => item.treeWith objectTree = some tree) items trees := by
  induction items generalizing trees with
  | nil => cases trees <;> simp [Value.treesWith]
  | cons item rest ih =>
    cases trees <;> simp [Value.treesWith, Option.bind_eq_some_iff, ih]

private theorem entryTreesWith_iff (objectTree : ObjectId → Option Tree)
    (entries : List (String × Value)) (trees : List (String × Tree)) :
    Value.entryTreesWith objectTree entries = some trees ↔
      List.Forall₂ (fun entry tree => entry.1 = tree.1 ∧ entry.2.treeWith objectTree = some tree.2)
        entries trees := by
  induction entries generalizing trees with
  | nil => cases trees <;> simp [Value.entryTreesWith]
  | cons entry rest ih =>
    obtain ⟨key, value⟩ := entry
    cases trees with
    | nil => simp [Value.entryTreesWith, Option.bind_eq_some_iff]
    | cons head tail =>
      obtain ⟨otherKey, tree⟩ := head
      simp only [Value.entryTreesWith, Option.bind_eq_bind, Option.bind_eq_some_iff, ih,
        Option.pure_def, Option.some.injEq, List.cons.injEq, Prod.mk.injEq, List.forall₂_cons]
      constructor
      · rintro ⟨_, written, _, others, ⟨same, rfl⟩, rfl⟩
        exact ⟨⟨same, written⟩, others⟩
      · rintro ⟨⟨same, written⟩, others⟩
        exact ⟨tree, written, tail, others, ⟨same, rfl⟩, rfl⟩

/-- A list is written as the sequence of what its items are written as. -/
theorem written_list (written : Written objects (.list items) tree) :
    ∃ trees, tree = .sequence trees ∧ List.Forall₂ (Written objects) items trees := by
  obtain ⟨depth, written⟩ := written
  rw [tree_eq_treeWith, Value.treeWith, Option.map_eq_some_iff] at written
  obtain ⟨trees, inside, rfl⟩ := written
  refine ⟨trees, rfl, ((treesWith_iff _ _ _).mp inside).imp fun item tree item_written => ?_⟩
  exact ⟨depth, (tree_eq_treeWith depth item).trans item_written⟩

/-- An array is written as the list of its items is. -/
theorem written_array : Written objects (.array items) tree ↔ Written objects (.list items) tree := by
  simp only [Written, tree_eq_treeWith, Value.treeWith]

/-- A map is written as a mapping of the same keys in the same order. -/
theorem written_map (written : Written objects (.map entries) tree) :
    ∃ trees, tree = .mapping trees ∧ List.Forall₂ (fun entry written =>
      entry.1 = written.1 ∧ Written objects entry.2 written.2) entries trees := by
  obtain ⟨depth, written⟩ := written
  rw [tree_eq_treeWith, Value.treeWith, Option.map_eq_some_iff] at written
  obtain ⟨trees, inside, rfl⟩ := written
  refine ⟨trees, rfl, ((entryTreesWith_iff _ _ _).mp inside).imp fun entry tree parts => ?_⟩
  exact ⟨parts.1, depth, (tree_eq_treeWith depth entry.2).trans parts.2⟩

/-- An object is written as its outline is. -/
theorem written_object {id : ObjectId} : Written objects (.object id) tree ↔
    Written objects (objects.outline id) tree := by
  constructor
  · rintro ⟨depth, written⟩
    cases depth with
    | zero => cases written
    | succ depth => exact ⟨depth, written⟩
  · rintro ⟨depth, written⟩
    exact ⟨depth + 1, written⟩

/-- Values that hold other values. -/
def Nested : Value → Prop
  | .array _ | .list _ | .map _ | .object _ => True
  | _ => False

/-- A value that holds no others is written as a single scalar. -/
theorem written_leaf (written : Written objects value tree) (leaf : ¬ Nested value) :
    (∀ trees, tree ≠ .sequence trees) ∧ ∀ trees, tree ≠ .mapping trees := by
  obtain ⟨depth, written⟩ := written
  rw [tree_eq_treeWith] at written
  cases value with
  | array items => exact absurd trivial leaf
  | list items => exact absurd trivial leaf
  | map entries => exact absurd trivial leaf
  | object id => exact absurd trivial leaf
  | _ =>
    cases written
    exact ⟨fun _ same => (nomatch same), fun _ same => (nomatch same)⟩

end ValuePath.WrittenTrees
