import ValuePath.Lookup.Evaluate
import ValuePath.Proofs.MemberTables
import ValuePath.Proofs.WrittenTrees

/-! Looking a value up and writing it commute. A walk through the written tree
takes entries and elements only; every such step agrees with the step that the
evaluator takes on the value itself, unless an element is taken from an object
that is written as a mapping of its fields. -/
namespace ValuePath.TreeLookup
open MemberTables WrittenTrees

/-- The part of a tree that a segment names: an entry of a mapping, or an
element of a sequence. -/
def child? : Segment → Tree → Option Tree
  | .field name, .mapping entries => Entries.find? name entries
  | .index (some position), .sequence items =>
    if position < 0 then none else items[position.toInt.toNat]?
  | _, _ => none

/-- The node that a path leads to in a tree. -/
def walk? (tree : Tree) (segments : List Segment) : Option Tree :=
  segments.foldlM (fun tree segment => child? segment tree) tree

/-- The value is written as this tree and as no other. -/
def WrittenAs (objects : Objects) (value : Value) (tree : Tree) : Prop :=
  ∀ other, Written objects value other ↔ other = tree

/-- A node and a value were found, and the value is written as that node, or
neither was found. -/
inductive Agrees (objects : Objects) : Option Tree → Except EvalError Value → Prop where
  | found (written : Written objects value tree) : Agrees objects (some tree) (.ok value)
  | neither : Agrees objects none (.error error)

/-- The segment takes an element of an object that is written by its fields. -/
def IntoFields (objects : Objects) (value : Value) (segment : Segment) : Prop :=
  ∃ id position, value = .object id ∧ segment = .index position ∧ (objects id).info.fields ≠ []

variable {objects : Objects} {segment : Segment}

namespace Agrees

theorem value_of_node {node : Tree} {result : Except EvalError Value}
    (agrees : Agrees objects (some node) result) :
    ∃ value, result = .ok value ∧ Written objects value node := by
  cases agrees with
  | found written => exact ⟨_, rfl, written⟩

theorem node_of_value {node : Option Tree} {value : Value}
    (agrees : Agrees objects node (.ok value)) :
    ∃ tree, node = some tree ∧ Written objects value tree := by
  cases agrees with
  | found written => exact ⟨_, rfl, written⟩

end Agrees

/-! ## Elements and entries -/

private theorem items_agree (written : List.Forall₂ (Written objects) items trees) (index : Nat)
    (error : EvalError) :
    Agrees objects trees[index]? (match items[index]? with
      | some value => .ok value
      | none => .error error) := by
  induction written generalizing index with
  | nil => exact .neither
  | cons head tail ih =>
    cases index with
    | zero => exact .found head
    | succ index => simpa only [List.getElem?_cons_succ] using ih index

private theorem entries_agree (written : List.Forall₂ (fun entry written =>
      entry.1 = written.1 ∧ Written objects entry.2 written.2) entries trees)
    (name : String) (error : EvalError) :
    Agrees objects (Entries.find? name trees) (match Entries.find? name entries with
      | some value => .ok value
      | none => .error error) := by
  induction written with
  | nil => exact .neither
  | cons head tail ih =>
    rename_i entry tree entries trees
    obtain ⟨key, value⟩ := entry
    obtain ⟨otherKey, node⟩ := tree
    obtain ⟨rfl, head⟩ := head
    simp only [Entries.find?]
    split
    · exact .found head
    · exact ih

/-! ## Objects -/

/-- The fields of an object as they are written. -/
private def fieldValues (objects : Objects) (id : ObjectId) : List (String × Value) :=
  (objects id).info.fields.map fun field => (field.name, (field.read (.object id)).getD .null)

private theorem outline_of_items {id : ObjectId} (bare : (objects id).info.fields = [])
    (iterable : (objects id).items = some items) : objects.outline id = .list items := by
  simp [Objects.outline, bare, iterable]

private theorem outline_of_fields {id : ObjectId}
    (other : (objects id).info.fields ≠ [] ∨ (objects id).items = none) :
    objects.outline id = .map (fieldValues objects id) := by
  simp only [Objects.outline, fieldValues]
  split
  · rename_i items bare iterable
    rcases other with filled | plain
    · exact absurd bare filled
    · rw [plain] at iterable
      cases iterable
  · rfl

/-- A field that is written is the one that is read. -/
private theorem find_fieldValues (own : OwnTables objects) (id : ObjectId) (name : String) :
    Entries.find? name (fieldValues objects id) =
      ((objects id).info.field? name).bind (·.read (.object id)) := by
  have reads := own_field_reads own id
  simp only [fieldValues, TypeInfo.fields, TypeInfo.field?, Entries.values]
  generalize (objects id).info.fieldTable = table at reads
  induction table with
  | nil => rfl
  | cons entry rest ih =>
    obtain ⟨key, field⟩ := entry
    obtain ⟨named, value, read⟩ : field.name = key ∧ ∃ value, field.read (.object id) = some value :=
      reads _ List.mem_cons_self
    have later := ih fun other member => reads other (List.mem_cons_of_mem _ member)
    simp only [List.map_cons, Entries.find?, named]
    by_cases same : key = name
    · simp [same, read]
    · simpa only [if_neg same] using later

/-! ## One step -/

private theorem child_of_leaf (written : Written objects value tree) (leaf : ¬ Nested value)
    (segment : Segment) : child? segment tree = none := by
  obtain ⟨noSequence, noMapping⟩ := written_leaf written leaf
  unfold child?
  split
  · exact absurd rfl (noMapping _)
  · exact absurd rfl (noSequence _)
  · rfl

variable (evaluator : Evaluator)

private theorem field_agrees (own : OwnTables evaluator.objects)
    (written : Written evaluator.objects value tree) (name : String) :
    Agrees evaluator.objects (child? (.field name) tree) (evaluator.readField value name) := by
  cases value with
  | map entries =>
    obtain ⟨trees, rfl, inside⟩ := written_map written
    exact entries_agree inside name _
  | object id =>
    have outlined := written_object.mp written
    have read : evaluator.readField (.object id) name =
        match Entries.find? name (fieldValues evaluator.objects id) with
        | some value => .ok value
        | none => .error (.fieldNotFound (evaluator.objects id).info.name name) := by
      rw [find_fieldValues own]
      rfl
    rw [read]
    by_cases other : (evaluator.objects id).info.fields ≠ [] ∨ (evaluator.objects id).items = none
    · rw [outline_of_fields other] at outlined
      obtain ⟨trees, rfl, inside⟩ := written_map outlined
      exact entries_agree inside name _
    · obtain ⟨bare, iterable⟩ := not_or.mp other
      have bare := not_not.mp bare
      obtain ⟨items, iterable⟩ := Option.ne_none_iff_exists'.mp iterable
      rw [outline_of_items bare iterable] at outlined
      obtain ⟨trees, rfl, -⟩ := written_list outlined
      rw [fieldValues, bare]
      exact .neither
  | array items =>
    obtain ⟨trees, rfl, -⟩ := written_list (written_array.mp written)
    exact .neither
  | list items =>
    obtain ⟨trees, rfl, -⟩ := written_list written
    exact .neither
  | _ =>
    rw [child_of_leaf written id]
    exact .neither

/-- Elements are taken by the same position on both sides. -/
private theorem elements_agree (written : List.Forall₂ (Written objects) items trees)
    {position : Int64} (counted : ¬ position < 0) :
    Agrees objects (child? (.index (some position)) (.sequence trees))
      (match items[position.toInt.toNat]? with
        | some value => .ok value
        | none => .error (.indexOutOfRange position.toInt.toNat)) := by
  rw [child?, if_neg counted]
  exact items_agree written _ _

private theorem child_of_negative {position : Int64} (negative : position < 0) (tree : Tree) :
    child? (.index (some position)) tree = none := by
  cases tree with
  | sequence items => rw [child?, if_pos negative]
  | _ => rfl

private theorem index_agrees (written : Written evaluator.objects value tree)
    (position : Option Int64)
    (outside : ¬ IntoFields evaluator.objects value (.index position)) :
    Agrees evaluator.objects (child? (.index position) tree)
      (evaluator.readIndex value position) := by
  cases position with
  | none =>
    have missing : child? (.index none) tree = none := by cases tree <;> rfl
    rw [missing]
    exact .neither
  | some position =>
    unfold Evaluator.readIndex
    by_cases negative : position < 0
    · simp only [negative, ↓reduceIte, child_of_negative negative]
      exact .neither
    · simp only [negative, ↓reduceIte]
      cases value with
      | array items =>
        obtain ⟨trees, rfl, inside⟩ := written_list (written_array.mp written)
        exact elements_agree inside negative
      | list items =>
        obtain ⟨trees, rfl, inside⟩ := written_list written
        exact elements_agree inside negative
      | map entries =>
        obtain ⟨trees, rfl, -⟩ := written_map written
        exact .neither
      | object id =>
        have outlined := written_object.mp written
        have bare : (evaluator.objects id).info.fields = [] := by
          by_contra filled
          exact outside ⟨id, some position, rfl, rfl, filled⟩
        cases iterable : (evaluator.objects id).items with
        | none =>
          rw [outline_of_fields (.inr iterable)] at outlined
          obtain ⟨trees, rfl, -⟩ := written_map outlined
          simp only [iterable]
          exact .neither
        | some items =>
          rw [outline_of_items bare iterable] at outlined
          obtain ⟨trees, rfl, inside⟩ := written_list outlined
          simp only [iterable]
          exact elements_agree inside negative
      | _ =>
        rw [child_of_leaf written id]
        exact .neither

/-- A step that calls nothing agrees with the step through the tree. -/
theorem step_agrees (own : OwnTables evaluator.objects)
    (written : Written evaluator.objects value tree)
    (plain : ∀ name slots, segment ≠ .method name slots)
    (outside : ¬ IntoFields evaluator.objects value segment) :
    Agrees evaluator.objects (child? segment tree) (evaluator.step value segment) := by
  cases segment with
  | field name => exact field_agrees evaluator own written name
  | method name slots => exact absurd rfl (plain name slots)
  | index position => exact index_agrees evaluator written position outside

/-- An object that is written by its fields is a mapping, which has no elements. -/
private theorem no_child_into_fields (written : Written objects value tree)
    (into : IntoFields objects value segment) : child? segment tree = none := by
  obtain ⟨id, position, rfl, rfl, filled⟩ := into
  have outlined := written_object.mp written
  rw [outline_of_fields (.inl filled)] at outlined
  obtain ⟨trees, rfl, -⟩ := written_map outlined
  cases position <;> rfl

/-! ## Walks -/

/-- A node of the written tree is what the value found there is written as. -/
theorem walk_found (own : OwnTables evaluator.objects) (segments : List Segment)
    (plain : ∀ segment ∈ segments, ∀ name slots, segment ≠ .method name slots)
    (written : Written evaluator.objects value tree) (walked : walk? tree segments = some node) :
    ∃ found, segments.foldlM evaluator.step value = .ok found ∧
      Written evaluator.objects found node := by
  induction segments generalizing value tree with
  | nil =>
    cases walked
    exact ⟨value, rfl, written⟩
  | cons segment rest ih =>
    rw [walk?, List.foldlM_cons, Option.bind_eq_bind, Option.bind_eq_some_iff] at walked
    obtain ⟨middle, child, walked⟩ := walked
    have outside : ¬ IntoFields evaluator.objects value segment := by
      intro into
      rw [no_child_into_fields written into] at child
      cases child
    have agrees := step_agrees evaluator own written (plain segment List.mem_cons_self) outside
    rw [child] at agrees
    obtain ⟨next, stepped, nextWritten⟩ := agrees.value_of_node
    have later := fun other member => plain other (List.mem_cons_of_mem _ member)
    obtain ⟨found, reached, foundWritten⟩ := ih later nextWritten walked
    refine ⟨found, ?_, foundWritten⟩
    rw [List.foldlM_cons, stepped]
    exact reached

/-- Nowhere on the way along the segments is an element taken from an object
that is written by its fields. -/
def AvoidsFields (value : Value) (segments : List Segment) : Prop :=
  ∀ before segment after holder, segments = before ++ segment :: after →
    before.foldlM evaluator.step value = .ok holder →
      ¬ IntoFields evaluator.objects holder segment

private theorem avoidsFields_cons (avoids : AvoidsFields evaluator value (segment :: rest)) :
    ¬ IntoFields evaluator.objects value segment ∧
      ∀ next, evaluator.step value segment = .ok next → AvoidsFields evaluator next rest := by
  refine ⟨avoids [] segment rest value rfl rfl, ?_⟩
  rintro next stepped before other after holder rfl reached
  apply avoids (segment :: before) other after holder rfl
  rw [List.foldlM_cons, stepped]
  exact reached

/-- Where the evaluator gets without elements of fields, the written tree has
the node that the value found is written as. -/
theorem walk_reached (own : OwnTables evaluator.objects) (segments : List Segment)
    (plain : ∀ segment ∈ segments, ∀ name slots, segment ≠ .method name slots)
    (written : Written evaluator.objects value tree)
    (reached : segments.foldlM evaluator.step value = .ok found)
    (avoids : AvoidsFields evaluator value segments) :
    ∃ node, walk? tree segments = some node ∧ Written evaluator.objects found node := by
  induction segments generalizing value tree with
  | nil =>
    cases reached
    exact ⟨tree, rfl, written⟩
  | cons segment rest ih =>
    obtain ⟨outside, avoidsLater⟩ := avoidsFields_cons evaluator avoids
    have agrees := step_agrees evaluator own written (plain segment List.mem_cons_self) outside
    rw [List.foldlM_cons] at reached
    cases stepped : evaluator.step value segment with
    | error error =>
      rw [stepped] at reached
      cases reached
    | ok next =>
      rw [stepped] at agrees reached
      obtain ⟨middle, child, nextWritten⟩ := agrees.node_of_value
      have later := fun other member => plain other (List.mem_cons_of_mem _ member)
      obtain ⟨node, walked, foundWritten⟩ :=
        ih later nextWritten reached (avoidsLater next stepped)
      refine ⟨node, ?_, foundWritten⟩
      rw [walk?, List.foldlM_cons, child]
      exact walked

theorem writtenAs_iff : WrittenAs objects value tree ↔ Written objects value tree :=
  ⟨fun only => (only tree).mpr rfl, fun written _ =>
    ⟨fun also => written_unique also written, fun same => same ▸ written⟩⟩

/-- Lookup commutes with writing. A node of the tree that a value is written as
is what the lookup of the same path finds, written; and what a lookup finds
without taking elements of objects that have fields is, written, the node that
the path leads to. -/
theorem lookup_commutes_with_writing (own : OwnTables evaluator.objects) (path : Path)
    (plain : ∀ segment ∈ path.segments, ∀ name slots, segment ≠ .method name slots)
    (value : Value) (tree : Tree) (written : WrittenAs evaluator.objects value tree) :
    (∀ node, walk? tree path.segments = some node →
      ∃ found, evaluator.tryEvaluate value path = .ok found ∧
        WrittenAs evaluator.objects found node) ∧
    (∀ found, evaluator.tryEvaluate value path = .ok found →
      AvoidsFields evaluator value path.segments →
      ∃ node, walk? tree path.segments = some node ∧
        WrittenAs evaluator.objects found node) := by
  simp only [writtenAs_iff] at written ⊢
  constructor
  · intro node walked
    exact walk_found evaluator own path.segments plain written walked
  · intro found reached avoids
    exact walk_reached evaluator own path.segments plain written reached avoids

/-- A user whose name was registered twice. -/
def user : Record where
  id := "user"
  typeName := "User"
  supertypes := []
  fields := [("name", .null), ("scores", .array [.byte 3, .long 4]), ("name", .string "Ada")]
  methods := []
  items := none
  concreteType := "Record"

/-- A queue that can be iterated and has no fields. -/
def queue : Record where
  id := "queue"
  typeName := "Queue"
  supertypes := []
  fields := []
  methods := []
  items := some [.object 0]
  concreteType := "Record"

theorem lookup_commutes_in_queue_of_users :
    let evaluator : Evaluator := ⟨Record.objects [user, queue], [], 3⟩
    let path : Path := ⟨[.field "waiting", .index (some 0), .field "name"]⟩
    let value : Value := .map [("waiting", .object 1)]
    let tree : Tree := .mapping [("waiting", .sequence [.mapping
      [("name", .text "Ada"), ("scores", .sequence [.integer 3, .integer 4])]])]
    OwnTables evaluator.objects ∧
      (∀ segment ∈ path.segments, ∀ name slots, segment ≠ .method name slots) ∧
      WrittenAs evaluator.objects value tree ∧ AvoidsFields evaluator value path.segments ∧
      (∃ found, evaluator.tryEvaluate value path = .ok found ∧
        WrittenAs evaluator.objects found (.text "Ada")) ∧
      ∃ node, walk? tree path.segments = some node ∧
        WrittenAs evaluator.objects (.string "Ada") node := by
  intro evaluator path value tree
  have own : OwnTables evaluator.objects := record_tables_own _
  have plain : ∀ segment ∈ path.segments, ∀ name slots, segment ≠ .method name slots := by
    simp [path]
  have written : WrittenAs evaluator.objects value tree := writtenAs_iff.mpr ⟨3, rfl⟩
  have avoids : AvoidsFields evaluator value path.segments := by
    rintro before segment after holder same reached ⟨id, position, rfl, rfl, filled⟩
    -- The only index of the path is the second segment, and it is applied to the queue.
    rcases before with _ | ⟨first, _ | ⟨second, _ | ⟨third, more⟩⟩⟩
    · cases same
    · cases same
      cases reached
      exact filled rfl
    · cases same
    · simp [path] at same
  have walked : walk? tree path.segments = some (.text "Ada") := rfl
  have reached : evaluator.tryEvaluate value path = .ok (.string "Ada") := rfl
  have commutes := lookup_commutes_with_writing evaluator own path plain value tree written
  exact ⟨own, plain, written, avoids, commutes.1 _ walked, commutes.2 _ reached avoids⟩

end ValuePath.TreeLookup
