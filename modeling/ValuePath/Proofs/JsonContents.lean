import ValuePath.Yaml.Node
import ValuePath.Proofs.JsonNumbers
import ValuePath.Proofs.JsonTokens

/-! What JSON text is as a YAML document: its value as a content without tags,
anchors and aliases, and that content resolved into data. -/
namespace ValuePath.JsonContents
open Yaml JsonGrammar PortableJson JsonTokens

mutual
/-- The content that a value is written as. -/
def sourceContent : Source → Content
  | .null => .scalar none true "null"
  | .boolean true => .scalar none true "true"
  | .boolean false => .scalar none true "false"
  | .number literal .. => .scalar none true (String.ofList literal.text)
  | .string pieces => .scalar none false (spelt pieces)
  | .emptyArray _ => .sequence none []
  | .array items => .sequence none (itemContents items)
  | .emptyObject _ => .mapping none []
  | .object pairs => .mapping none (pairContents pairs)

def itemContents : Items → List Content
  | .last _ item _ => [sourceContent item]
  | .more _ item _ rest => sourceContent item :: itemContents rest

def pairContents : Pairs → List (Content × Content)
  | .last _ key _ _ value _ => [(.scalar none false (spelt key), sourceContent value)]
  | .more _ key _ _ value _ rest =>
    (.scalar none false (spelt key), sourceContent value) :: pairContents rest
end

/-! ## Reading tokens -/

/-- A token that begins a value. -/
inductive Begins : Token → Prop where
  | scalar (plain : Bool) (text : String) : Begins (.scalar plain text)
  | sequence : Begins .flowSequenceStart
  | mapping : Begins .flowMappingStart

theorem source_begins (source : Source) :
    ∃ token more, sourceTokens source = token :: more ∧ Begins token := by
  cases source with
  | boolean value => cases value <;> exact ⟨_, _, rfl, .scalar _ _⟩
  | null | number | string => exact ⟨_, _, rfl, .scalar _ _⟩
  | emptyArray | array => exact ⟨_, _, rfl, .sequence⟩
  | emptyObject | object => exact ⟨_, _, rfl, .mapping⟩

/-- The mark in front of an item or a pair that is not the first one. -/
def parting : Bool → List Token
  | true => []
  | false => [.flowEntry]

section
variable {prefixes : Prefixes} {anchors : Anchors} {fuel : Nat} {rest : List Token}

theorem read_scalar {block indentless plain : Bool} {text : String} :
    Content.read? prefixes (fuel + 1) block indentless anchors (.scalar plain text :: rest) =
      some (.scalar none plain text, anchors, rest) := by
  simp [Content.read?, Properties.read]

theorem read_sequence {block indentless : Bool} {items : List Content} {after : List Token}
    (read : Content.readFlowItems? prefixes fuel true anchors rest = some (items, anchors, after)) :
    Content.read? prefixes (fuel + 1) block indentless anchors (.flowSequenceStart :: rest) =
      some (.sequence none items, anchors, after) := by
  simp [Content.read?, Properties.read, read]

theorem read_mapping {block indentless : Bool} {entries : List (Content × Content)}
    {after : List Token}
    (read : Content.readFlowEntries? prefixes fuel true anchors rest =
      some (entries, anchors, after)) :
    Content.read? prefixes (fuel + 1) block indentless anchors (.flowMappingStart :: rest) =
      some (.mapping none entries, anchors, after) := by
  simp [Content.read?, Properties.read, read]

/-- One item is read, and then those behind it. -/
theorem readFlowItems_step {first : Bool} {source : Source} {item : Content} {items : List Content}
    {after more : List Token}
    (head : Content.read? prefixes fuel false false anchors (sourceTokens source ++ more) =
      some (item, anchors, after))
    (tail : Content.readFlowItems? prefixes fuel false anchors after =
      some (items, anchors, rest)) :
    Content.readFlowItems? prefixes (fuel + 1) first anchors
      (parting first ++ (sourceTokens source ++ more)) = some (item :: items, anchors, rest) := by
  obtain ⟨token, others, written, begins⟩ := source_begins source
  rw [written, List.cons_append] at head ⊢
  cases begins <;> cases first <;> simp [Content.readFlowItems?, parting, head, tail]

/-- One pair is read, and then those behind it. -/
theorem readFlowEntries_step {first : Bool} {key : String} {source : Source} {value : Content}
    {entries : List (Content × Content)} {after more : List Token}
    (head : Content.read? prefixes fuel false false anchors (sourceTokens source ++ more) =
      some (value, anchors, after))
    (tail : Content.readFlowEntries? prefixes (fuel + 2) false anchors after =
      some (entries, anchors, rest)) :
    Content.readFlowEntries? prefixes (fuel + 3) first anchors
      (parting first ++ .key :: .scalar false key :: .value :: (sourceTokens source ++ more)) =
      some ((.scalar none false key, value) :: entries, anchors, rest) := by
  obtain ⟨token, others, written, begins⟩ := source_begins source
  rw [written, List.cons_append] at head ⊢
  have keyed : Content.readOptional? prefixes (fuel + 2) false false
      [.value, .flowEntry, .flowMappingEnd] anchors
      (.scalar false key :: .value :: token :: (others ++ more)) =
      some (.scalar none false key, anchors, .value :: token :: (others ++ more)) := by
    simp [Content.readOptional?, endsEntry, read_scalar]
  have valued : Content.readFlowValue? prefixes (fuel + 2) [.flowEntry, .flowMappingEnd] anchors
      (.value :: token :: (others ++ more)) = some (value, anchors, after) := by
    cases begins <;> simp [Content.readFlowValue?, Content.readOptional?, endsEntry, head]
  cases first <;> simp [Content.readFlowEntries?, parting, keyed, valued, tail]

end

mutual
/-- The tokens of a value are read as its content, in two steps for each of them. -/
theorem read_source {prefixes : Prefixes} {anchors : Anchors} : (source : Source) →
    {fuel : Nat} → {block indentless : Bool} → {rest : List Token} →
    2 * (sourceTokens source).length ≤ fuel →
    Content.read? prefixes fuel block indentless anchors (sourceTokens source ++ rest) =
      some (sourceContent source, anchors, rest)
  | .null, fuel + 1, _, _, _, _ | .boolean true, fuel + 1, _, _, _, _
  | .boolean false, fuel + 1, _, _, _, _ | .number .., fuel + 1, _, _, _, _
  | .string _, fuel + 1, _, _, _, _ => read_scalar
  | .emptyArray _, fuel + 2, _, _, _, _ => read_sequence (by simp [Content.readFlowItems?])
  | .emptyObject _, fuel + 2, _, _, _, _ => read_mapping (by simp [Content.readFlowEntries?])
  | .array items, fuel + 1, _, _, rest, enough => by
    simp only [sourceTokens, List.length_cons, List.length_append, List.length_nil] at enough
    rw [sourceTokens, List.cons_append, List.append_assoc]
    exact read_sequence (read_items items true (by omega))
  | .object pairs, fuel + 1, _, _, rest, enough => by
    simp only [sourceTokens, List.length_cons, List.length_append, List.length_nil] at enough
    rw [sourceTokens, List.cons_append, List.append_assoc]
    exact read_mapping (read_pairs pairs true (by omega))

/-- The items of an array are read up to its end. -/
theorem read_items {prefixes : Prefixes} {anchors : Anchors} : (items : Items) → (first : Bool) →
    {fuel : Nat} → {rest : List Token} → 2 * (itemTokens items).length + 2 ≤ fuel →
    Content.readFlowItems? prefixes fuel first anchors
      (parting first ++ (itemTokens items ++ .flowSequenceEnd :: rest)) =
      some (itemContents items, anchors, rest)
  | .last _ item _, first, fuel + 1, rest, enough => by
    simp only [itemTokens] at enough
    have ends : Content.readFlowItems? prefixes fuel false anchors (.flowSequenceEnd :: rest) =
        some ([], anchors, rest) := by
      cases fuel with
      | zero => omega
      | succ fuel => simp [Content.readFlowItems?]
    exact readFlowItems_step (read_source item (by omega)) ends
  | .more _ item _ others, first, fuel + 1, rest, enough => by
    simp only [itemTokens, List.length_append, List.length_cons] at enough
    rw [itemTokens, List.append_assoc]
    exact readFlowItems_step (read_source item (by omega)) (read_items others false (by omega))

/-- The pairs of an object are read up to its end. -/
theorem read_pairs {prefixes : Prefixes} {anchors : Anchors} : (pairs : Pairs) → (first : Bool) →
    {fuel : Nat} → {rest : List Token} → 2 * (pairTokens pairs).length + 2 ≤ fuel →
    Content.readFlowEntries? prefixes fuel first anchors
      (parting first ++ (pairTokens pairs ++ .flowMappingEnd :: rest)) =
      some (pairContents pairs, anchors, rest)
  | .last _ key _ _ value _, first, fuel + 3, rest, enough => by
    simp only [pairTokens, List.length_cons] at enough
    have ends : Content.readFlowEntries? prefixes (fuel + 2) false anchors
        (.flowMappingEnd :: rest) = some ([], anchors, rest) := by
      simp [Content.readFlowEntries?]
    exact readFlowEntries_step (read_source value (by omega)) ends
  | .more _ key _ _ value _ others, first, fuel + 3, rest, enough => by
    simp only [pairTokens, List.length_append, List.length_cons] at enough
    simp only [pairTokens, List.append_assoc, List.cons_append]
    exact readFlowEntries_step (read_source value (by omega)) (read_pairs others false (by omega))
end

/-- The tokens of a value up to the end are one document. -/
theorem read_document (source : Source) {fuel : Nat}
    (enough : 2 * (sourceTokens source).length ≤ fuel) :
    Yaml.Document.read? fuel true (sourceTokens source ++ [.streamEnd]) =
      some (⟨sourceContent source, Anchors.empty⟩, [.streamEnd]) := by
  obtain ⟨token, others, written, begins⟩ := source_begins source
  have bare : Yaml.Document.isBare (sourceTokens source ++ [.streamEnd]) = true := by
    rw [written]
    cases begins <;> rfl
  simp [Yaml.Document.read?, bare, read_source source enough]

/-- The text of a portable document is one YAML document. -/
theorem readAll_document {document : JsonGrammar.Document} (portable : PortableDocument document) :
    Yaml.Document.readAll document.text =
      [some ⟨sourceContent document.source, Anchors.empty⟩] := by
  obtain ⟨token, others, written, begins⟩ := source_begins document.source
  have opens : (sourceTokens document.source ++ [Token.streamEnd]).head? ≠ some .streamEnd := by
    rw [written]
    cases begins <;> simp
  have length : (sourceTokens document.source ++ [Token.streamEnd]).length =
      (sourceTokens document.source).length + 1 := by simp
  rw [Yaml.Document.readAll, document_tokens portable, length, Yaml.Document.readFrom]
  simp only [if_true, if_neg opens, read_document document.source
    (by omega : 2 * (sourceTokens document.source).length ≤
      3 * ((sourceTokens document.source).length + 1) + 3)]
  simp [Yaml.Document.readFrom, Yaml.Document.skipEnds]

/-! ## Resolving contents -/

mutual
/-- The data that a value stands for. -/
def sourceNode : Source → Node
  | .null => .null
  | .boolean value => .boolean value
  | .number _ n _ => .number n
  | .string pieces => .string (spelt pieces)
  | .emptyArray _ => .sequence []
  | .array items => .sequence (itemNodes items)
  | .emptyObject _ => .mapping []
  | .object pairs => .mapping (pairNodes pairs)

def itemNodes : Items → List Node
  | .last _ item _ => [sourceNode item]
  | .more _ item _ rest => sourceNode item :: itemNodes rest

def pairNodes : Pairs → List (Node × Node)
  | .last _ key _ _ value _ => [(.string (spelt key), sourceNode value)]
  | .more _ key _ _ value _ rest => (.string (spelt key), sourceNode value) :: pairNodes rest
end

section
variable {anchors : Anchors} {limit fuel depth : Nat}

theorem resolve_scalar {plain : Bool} {text : String} {node : Node}
    (stands : Node.ofScalar? false none plain text = some node) :
    Node.resolve anchors limit (fuel + 1) depth false (.scalar none plain text) = pure node := by
  simp [Node.resolve, Node.ownTag?, stands]
  rfl

theorem resolve_string {text : String} :
    Node.resolve anchors limit (fuel + 1) depth false (.scalar none false text) =
      pure (.string text) :=
  resolve_scalar rfl

theorem resolve_sequence {nested : List Content} {nodes : List Node}
    (items : nested.mapM (Node.resolve anchors limit fuel depth false) = pure nodes) :
    Node.resolve anchors limit (fuel + 1) (depth + 1) false (.sequence none nested) =
      pure (.sequence nodes) := by
  simp [Node.resolve, Node.ownTag?, items]

/-- Reads one more entry; the last one stands first. -/
def addEntry (anchors : Anchors) (limit fuel depth : Nat) (read : List (Node × Node))
    (entry : Content × Content) : StateT Nat Option (List (Node × Node)) := do
  let key ← Node.resolve anchors limit fuel depth false entry.1
  if read.any fun other => Node.same key other.1 then failure
  else return (key, ← Node.resolve anchors limit fuel depth false entry.2) :: read

theorem resolve_mapping {nested : List (Content × Content)} {entries : List (Node × Node)}
    (folded : nested.foldlM (addEntry anchors limit fuel depth) [] = pure entries.reverse) :
    Node.resolve anchors limit (fuel + 1) (depth + 1) false (.mapping none nested) =
      pure (.mapping entries) := by
  have unfolded : Node.resolve anchors limit (fuel + 1) (depth + 1) false (.mapping none nested) =
      (do
        let read ← nested.foldlM (addEntry anchors limit fuel depth) []
        return .mapping read.reverse) := by
    simp [Node.resolve, Node.ownTag?]
    rfl
  rw [unfolded, folded, pure_bind, List.reverse_reverse]

theorem addEntry_new {read : List (Node × Node)} {key value : Content} {name : String}
    {node : Node} (absent : ∀ entry ∈ read, entry.1 ≠ .string name)
    (keyed : Node.resolve anchors limit fuel depth false key = pure (.string name))
    (valued : Node.resolve anchors limit fuel depth false value = pure node) :
    addEntry anchors limit fuel depth read (key, value) = pure ((.string name, node) :: read) := by
  have unlike : (read.any fun other => Node.same (.string name) other.1) = false := by
    rw [List.any_eq_false]
    intro entry member same
    apply absent entry member
    cases shape : entry.1 with
    | string other =>
      rw [shape, Node.same, beq_iff_eq] at same
      rw [same]
    | null | boolean | number | sequence | mapping | tagged =>
      rw [shape] at same
      simp [Node.same] at same
  simp [addEntry, keyed, valued, unlike]

end

/-- The names of the entries of an object. -/
def names (pairs : Pairs) : List String := (pairKeys pairs).map fun key => spelt key.1

mutual
/-- The content of a value stands for its data, if it is not nested too deep. -/
theorem resolve_source (anchors : Anchors) (limit : Nat) : (source : Source) → Portable source →
    {fuel depth : Nat} → source.depth ≤ depth → depth < fuel →
    Node.resolve anchors limit fuel depth false (sourceContent source) = pure (sourceNode source)
  | .null, _, fuel + 1, _, _, _ => resolve_scalar (by rfl)
  | .boolean true, _, fuel + 1, _, _, _ => resolve_scalar (by rfl)
  | .boolean false, _, fuel + 1, _, _, _ => resolve_scalar (by rfl)
  | .number literal n denotes, portable, fuel + 1, _, _, _ => by
    have agrees := JsonNumbers.ofPlain_exact (portable.exact literal n denotes .whole) denotes
    exact resolve_scalar (by simp [Node.ofScalar?, Node.ofPlain?, agrees, sourceNode])
  | .string pieces, _, fuel + 1, _, _, _ => resolve_string
  | .emptyArray _, _, fuel + 1, depth + 1, _, _ => resolve_sequence rfl
  | .array items, portable, fuel + 1, depth + 1, fits, enough =>
    resolve_sequence (resolve_items anchors limit items portable.items (Nat.le_of_succ_le_succ fits)
      (Nat.lt_of_succ_lt_succ enough))
  | .emptyObject _, _, fuel + 1, depth + 1, _, _ => resolve_mapping rfl
  | .object pairs, portable, fuel + 1, depth + 1, fits, enough => by
    have folded := resolve_pairs anchors limit pairs portable.values
      (portable.distinct pairs .whole) [] (fun _ _ _ member => absurd member List.not_mem_nil)
      (Nat.le_of_succ_le_succ fits) (Nat.lt_of_succ_lt_succ enough)
    rw [List.append_nil] at folded
    exact resolve_mapping folded

theorem resolve_items (anchors : Anchors) (limit : Nat) : (items : Items) →
    (∀ item ∈ itemSources items, Portable item) → {fuel depth : Nat} → items.depth ≤ depth →
    depth < fuel → (itemContents items).mapM (Node.resolve anchors limit fuel depth false) =
      pure (itemNodes items)
  | .last _ item _, portable, fuel, depth, fits, enough => by
    rw [itemContents, List.mapM_cons, resolve_source anchors limit item
      (portable item (List.mem_singleton_self _)) fits enough]
    rfl
  | .more _ item _ rest, portable, fuel, depth, fits, enough => by
    rw [Items.depth, Nat.max_le] at fits
    rw [itemContents, List.mapM_cons, resolve_source anchors limit item
      (portable item List.mem_cons_self) fits.1 enough, pure_bind, resolve_items anchors limit rest
      (fun other member => portable other (List.mem_cons_of_mem _ member)) fits.2 enough]
    rfl

/-- The entries are put in one by one, as long as their names differ. -/
theorem resolve_pairs (anchors : Anchors) (limit : Nat) : (pairs : Pairs) →
    (∀ value ∈ pairSources pairs, Portable value) → (names pairs).Nodup →
    (read : List (Node × Node)) →
    (∀ name ∈ names pairs, ∀ entry ∈ read, entry.1 ≠ .string name) → {fuel depth : Nat} →
    pairs.depth ≤ depth → depth < fuel →
    (pairContents pairs).foldlM (addEntry anchors limit fuel depth) read =
      pure ((pairNodes pairs).reverse ++ read)
  | .last _ key _ _ value _, portable, _, read, absent, fuel + 1, depth, fits, enough => by
    have added := addEntry_new (absent (spelt key) (List.mem_singleton_self _)) resolve_string
      (resolve_source anchors limit value
        (portable value (List.mem_singleton_self _)) fits enough)
    rw [pairContents, List.foldlM_cons, added]
    rfl
  | .more _ key _ _ value _ rest, portable, distinct, read, absent, fuel + 1, depth, fits,
      enough => by
    rw [Pairs.depth, Nat.max_le] at fits
    have later : spelt key ∉ names rest ∧ (names rest).Nodup := List.nodup_cons.mp distinct
    have added := addEntry_new (absent (spelt key) List.mem_cons_self) resolve_string
      (resolve_source anchors limit value
        (portable value List.mem_cons_self) fits.1 enough)
    have absentThere : ∀ name ∈ names rest,
        ∀ entry ∈ (.string (spelt key), sourceNode value) :: read, entry.1 ≠ .string name := by
      intro name member entry held
      rcases List.mem_cons.mp held with rfl | before
      · rintro ⟨⟩
        exact later.1 member
      · exact absent name (List.mem_cons_of_mem _ member) entry before
    rw [pairContents, List.foldlM_cons, added, pure_bind, resolve_pairs anchors limit rest
      (fun other member => portable other (List.mem_cons_of_mem _ member)) later.2 _ absentThere
      fits.2 enough, pairNodes, List.reverse_cons, List.append_assoc, List.singleton_append]
end

/-- The text of a portable document holds one document, its value. -/
theorem documents_of_portable {document : JsonGrammar.Document}
    (portable : PortableDocument document) (shallow : document.source.depth ≤ 128) :
    Node.documents document.text = [some (sourceNode document.source)] := by
  have resolved (limit : Nat) : Node.resolve Anchors.empty limit (2 * Node.depthLimit + 2)
      Node.depthLimit false (sourceContent document.source) = pure (sourceNode document.source) :=
    resolve_source Anchors.empty limit document.source portable.portable shallow (by decide)
  rw [Node.documents, readAll_document portable]
  simp [Node.ofDocument?, resolved]

end ValuePath.JsonContents
