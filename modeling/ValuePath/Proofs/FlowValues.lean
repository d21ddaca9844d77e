import ValuePath.Proofs.ContentRests
import ValuePath.Proofs.JsonContents

/-! Tokens of values in the style of JSON: scalars, and collections between brackets. Where their
readers give anything, they leave exactly what stands behind the value, so that another value
behind it is a document without a mark of its start, which breaks the rules. -/
namespace ValuePath.FlowValues
open Yaml ContentRests
open JsonContents (Begins parting)

/-! ## Values between brackets -/

/-- The tokens of a key with its colon to come. A key that was not known as one in time has
no token of its own. -/
inductive FlowKey : List Token → Prop where
  | marked (text : String) : FlowKey [.key, .scalar false text]
  | unmarked (text : String) : FlowKey [.scalar false text]

mutual
/-- The tokens of a scalar, or of a collection between brackets. -/
inductive FlowValue : List Token → Prop where
  | scalar (plain : Bool) (text : String) : FlowValue [.scalar plain text]
  | emptySequence : FlowValue [.flowSequenceStart, .flowSequenceEnd]
  | sequence {items : List Token} (inside : FlowItems items) :
      FlowValue (.flowSequenceStart :: (items ++ [.flowSequenceEnd]))
  | emptyMapping : FlowValue [.flowMappingStart, .flowMappingEnd]
  | mapping {pairs : List Token} (inside : FlowPairs pairs) :
      FlowValue (.flowMappingStart :: (pairs ++ [.flowMappingEnd]))

inductive FlowItems : List Token → Prop where
  | last {item : List Token} (value : FlowValue item) : FlowItems item
  | more {item rest : List Token} (value : FlowValue item) (others : FlowItems rest) :
      FlowItems (item ++ .flowEntry :: rest)

inductive FlowPairs : List Token → Prop where
  | last {key item : List Token} (named : FlowKey key) (value : FlowValue item) :
      FlowPairs (key ++ .value :: item)
  | more {key item rest : List Token} (named : FlowKey key) (value : FlowValue item)
      (others : FlowPairs rest) : FlowPairs (key ++ .value :: (item ++ .flowEntry :: rest))
end

theorem FlowValue.begins {tokens : List Token} (value : FlowValue tokens) :
    ∃ token rest, tokens = token :: rest ∧ Begins token := by
  cases value with
  | scalar => exact ⟨_, _, rfl, .scalar _ _⟩
  | emptySequence | sequence => exact ⟨_, _, rfl, .sequence⟩
  | emptyMapping | mapping => exact ⟨_, _, rfl, .mapping⟩

/-! ## What is left behind a value -/

section
variable {prefixes : Prefixes} {fuel : Nat} {first : Bool} {anchors : Anchors} {token : Token}
  {rest : List Token}

theorem read_opened_sequence {block indentless : Bool} :
    Content.read? prefixes (fuel + 1) block indentless anchors (.flowSequenceStart :: rest) =
      (Content.readFlowItems? prefixes fuel true anchors rest).map fun (items, after, rest) =>
        (.sequence none items, after, rest) := rfl

theorem read_opened_mapping {block indentless : Bool} :
    Content.read? prefixes (fuel + 1) block indentless anchors (.flowMappingStart :: rest) =
      (Content.readFlowEntries? prefixes fuel true anchors rest).map fun (entries, after, rest) =>
        (.mapping none entries, after, rest) := rfl

theorem readFlowItems_begins (begins : Begins token) :
    Content.readFlowItems? prefixes (fuel + 1) first anchors (parting first ++ token :: rest) =
      (Content.read? prefixes fuel false false anchors (token :: rest)).bind
        fun (item, anchors, rest) =>
          (Content.readFlowItems? prefixes fuel false anchors rest).bind
            fun (items, anchors, rest) => some (item :: items, anchors, rest) := by
  cases begins <;> cases first <;> rfl

theorem readFlowEntries_marked :
    Content.readFlowEntries? prefixes (fuel + 1) first anchors (parting first ++ .key :: rest) =
      (Content.readOptional? prefixes fuel false false [.value, .flowEntry, .flowMappingEnd]
        anchors rest).bind fun (key, anchors, rest) =>
          (Content.readFlowValue? prefixes fuel [.flowEntry, .flowMappingEnd] anchors rest).bind
            fun (value, anchors, rest) =>
              (Content.readFlowEntries? prefixes fuel false anchors rest).bind
                fun (entries, anchors, rest) => some ((key, value) :: entries, anchors, rest) := by
  cases first <;> rfl

theorem readFlowEntries_unmarked (begins : Begins token) :
    Content.readFlowEntries? prefixes (fuel + 1) first anchors (parting first ++ token :: rest) =
      (Content.read? prefixes fuel false false anchors (token :: rest)).bind
        fun (key, anchors, rest) =>
          (Content.readFlowEntries? prefixes fuel false anchors rest).bind
            fun (entries, anchors, rest) => some ((key, .absent) :: entries, anchors, rest) := by
  cases begins <;> cases first <;> rfl

theorem items_closed :
    Leaves (Content.readFlowItems? prefixes fuel first anchors (.flowSequenceEnd :: rest))
      (· = rest) := by
  cases fuel with
  | zero => exact leaves_none
  | succ fuel => exact leaves_some rfl

theorem entries_closed :
    Leaves (Content.readFlowEntries? prefixes fuel first anchors (.flowMappingEnd :: rest))
      (· = rest) := by
  cases fuel with
  | zero => exact leaves_none
  | succ fuel => exact leaves_some rfl

theorem read_text {block indentless plain : Bool} {text : String} :
    Leaves (Content.read? prefixes fuel block indentless anchors (.scalar plain text :: rest))
      (· = rest) := by
  cases fuel with
  | zero => exact leaves_none
  | succ fuel =>
    rw [JsonContents.read_scalar]
    exact leaves_some rfl

/-- A content that has to be there is read like any other. -/
theorem readOptional_begins {block indentless : Bool} {ends : List Token} {left : List Token → Prop}
    (begins : endsEntry ends (token :: rest) = false)
    (read : ∀ fuel, Leaves
      (Content.read? prefixes fuel block indentless anchors (token :: rest)) left) :
    Leaves (Content.readOptional? prefixes fuel block indentless ends anchors (token :: rest))
      left := by
  cases fuel with
  | zero => exact leaves_none
  | succ fuel =>
    rw [Content.readOptional?, if_neg (by simp [begins])]
    exact read fuel

end

/-- Behind these tokens, readers of a content leave exactly what follows. -/
def Whole (prefixes : Prefixes) (tokens : List Token) : Prop :=
  ∀ fuel block indentless anchors rest, Leaves
    (Content.read? prefixes fuel block indentless anchors (tokens ++ rest)) (· = rest)

section
variable {prefixes : Prefixes} {fuel : Nat} {first : Bool} {anchors : Anchors}
  {item after rest : List Token}

/-- One item is read up to where the next ones are. -/
theorem item_leaves (value : FlowValue item) (whole : Whole prefixes item)
    (later : ∀ fuel anchors, Leaves (Content.readFlowItems? prefixes fuel false anchors after)
      (· = rest)) :
    Leaves (Content.readFlowItems? prefixes fuel first anchors (parting first ++ (item ++ after)))
      (· = rest) := by
  cases fuel with
  | zero => exact leaves_none
  | succ fuel =>
    have read := whole fuel false false anchors after
    obtain ⟨token, more, rfl, begins⟩ := value.begins
    refine readFlowItems_begins begins ▸ read.bind ?_
    rintro held known _ rfl
    refine (later fuel known).bind ?_
    rintro items known _ rfl
    exact leaves_some rfl

/-- The value behind a colon is read. -/
theorem flowValue_leaves {ends : List Token} (value : FlowValue item)
    (whole : Whole prefixes item) (apart : ∀ token, Begins token → ends.contains token = false) :
    Leaves (Content.readFlowValue? prefixes fuel ends anchors (.value :: (item ++ after)))
      (· = after) := by
  cases fuel with
  | zero => exact leaves_none
  | succ fuel =>
    have read fuel := whole fuel false false anchors after
    obtain ⟨token, more, rfl, begins⟩ := value.begins
    exact readOptional_begins (apart token begins) read

/-- One pair is read up to where the next ones are. -/
theorem pair_leaves {key : List Token} (named : FlowKey key) (value : FlowValue item)
    (whole : Whole prefixes item)
    (later : ∀ fuel anchors, Leaves (Content.readFlowEntries? prefixes fuel false anchors after)
      (· = rest)) :
    Leaves (Content.readFlowEntries? prefixes fuel first anchors
      (parting first ++ (key ++ .value :: (item ++ after)))) (· = rest) := by
  cases fuel with
  | zero => exact leaves_none
  | succ fuel =>
    cases named with
    | marked text =>
      refine readFlowEntries_marked ▸ Leaves.bind
        (?_ : Leaves _ (· = .value :: (item ++ after))) ?_
      · exact readOptional_begins rfl fun _ => read_text
      · rintro name known _ rfl
        refine Leaves.bind (?_ : Leaves _ (· = after)) ?_
        · refine flowValue_leaves value whole ?_
          rintro _ ⟨⟩ <;> rfl
        · rintro held known _ rfl
          refine (later fuel known).bind ?_
          rintro entries known _ rfl
          exact leaves_some rfl
    | unmarked text =>
      -- without the token of the key, the colon stands where the next pair should begin
      refine readFlowEntries_unmarked (.scalar false text) ▸ Leaves.bind read_text ?_
      rintro name known _ rfl
      cases fuel <;> exact leaves_none

theorem sequence_whole {inside : List Token}
    (items : ∀ fuel anchors rest, Leaves (Content.readFlowItems? prefixes fuel true anchors
      (inside ++ .flowSequenceEnd :: rest)) (· = rest)) :
    Whole prefixes (.flowSequenceStart :: (inside ++ [.flowSequenceEnd])) := by
  intro fuel block indentless anchors rest
  cases fuel with
  | zero => exact leaves_none
  | succ fuel =>
    rw [List.cons_append, List.append_assoc, read_opened_sequence]
    exact Leaves.map (items fuel anchors rest) (fun _ same => same) fun _ => rfl

theorem mapping_whole {inside : List Token}
    (entries : ∀ fuel anchors rest, Leaves (Content.readFlowEntries? prefixes fuel true anchors
      (inside ++ .flowMappingEnd :: rest)) (· = rest)) :
    Whole prefixes (.flowMappingStart :: (inside ++ [.flowMappingEnd])) := by
  intro fuel block indentless anchors rest
  cases fuel with
  | zero => exact leaves_none
  | succ fuel =>
    rw [List.cons_append, List.append_assoc, read_opened_mapping]
    exact Leaves.map (entries fuel anchors rest) (fun _ same => same) fun _ => rfl

end

mutual
/-- Readers of a value leave exactly what stands behind it. -/
theorem value_whole {prefixes : Prefixes} {tokens : List Token} : FlowValue tokens →
    Whole prefixes tokens
  | .scalar _ _ => fun _ _ _ _ _ => read_text
  | .emptySequence => @sequence_whole prefixes [] fun _ _ _ => items_closed
  | .sequence inside => sequence_whole (items_leave inside true)
  | .emptyMapping => @mapping_whole prefixes [] fun _ _ _ => entries_closed
  | .mapping inside => mapping_whole (pairs_leave inside true)

/-- Items are read up to the bracket behind them. -/
theorem items_leave {prefixes : Prefixes} {tokens : List Token} : FlowItems tokens →
    ∀ first fuel anchors rest, Leaves (Content.readFlowItems? prefixes fuel first anchors
      (parting first ++ (tokens ++ .flowSequenceEnd :: rest))) (· = rest)
  | .last value, _, _, _, _ => item_leaves value (value_whole value) fun _ _ => items_closed
  | .more value others, _, _, _, _ => by
    rw [List.append_assoc]
    exact item_leaves value (value_whole value) fun _ _ => items_leave others false _ _ _

/-- Pairs are read up to the brace behind them. -/
theorem pairs_leave {prefixes : Prefixes} {tokens : List Token} : FlowPairs tokens →
    ∀ first fuel anchors rest, Leaves (Content.readFlowEntries? prefixes fuel first anchors
      (parting first ++ (tokens ++ .flowMappingEnd :: rest))) (· = rest)
  | .last named value, _, _, _, _ => by
    rw [List.append_assoc]
    exact pair_leaves named value (value_whole value) fun _ _ => entries_closed
  | .more named value others, _, _, _, _ => by
    simp only [List.append_assoc, List.cons_append]
    exact pair_leaves named value (value_whole value) fun _ _ => pairs_leave others false _ _ _
end

/-! ## Documents that break the rules -/

/-- A token that stands between documents. -/
def isBoundary : Token → Bool
  | .streamEnd | .directive _ | .documentStart | .documentEnd => true
  | _ => false

/-- One of the documents that these tokens hold breaks the rules. -/
def Rejected (tokens : List Token) : Prop :=
  none ∈ Document.readFrom tokens.length (tokens.length + 1) true tokens

theorem rejected_unended {tokens : List Token} (unended : .streamEnd ∉ tokens) : Rejected tokens :=
  readFrom_unended _ _ _ _ unended

section
variable {token : Token} {more : List Token} (inner : isBoundary token = false)
include inner

/-- Only the first document may begin without a mark. -/
theorem later_document_marked (size fuel : Nat) :
    none ∈ Document.readFrom size fuel false (token :: more) := by
  cases fuel with
  | zero => exact List.mem_singleton_self _
  | succ fuel =>
    have going : token ≠ .streamEnd := by
      rintro rfl
      cases inner
    have unread : Document.read? (3 * size + 3) false (token :: more) = none := by
      rw [read_marked rfl]
      cases token <;> first | rfl | cases inner
    have kept : Document.skipEnds (token :: more) = token :: more := by
      cases token <;> first | rfl | cases inner
    simp [Document.readFrom, kept, going, unread]

/-- A document that begins with a value is this value. -/
theorem document_leaves {fuel : Nat} {tokens rest : List Token} {document : Document}
    (value : FlowValue tokens)
    (read : Document.read? fuel true (tokens ++ token :: more) = some (document, rest)) :
    rest = token :: more := by
  have bare : Document.isBare (tokens ++ token :: more) = true := by
    obtain ⟨first, others, rfl, begins⟩ := value.begins
    cases begins <;> rfl
  rw [read_bare (by rw [bare]; rfl)] at read
  obtain ⟨⟨content, anchors, left⟩, found, ends⟩ := Option.bind_eq_some_iff.mp read
  obtain rfl := value_whole value _ _ _ _ _ _ _ _ found
  cases token <;> first | (cases ends <;> rfl) | cases inner

/-- A value is one document, and no other begins behind it without a mark. -/
theorem rejected_behind_value {tokens : List Token} (value : FlowValue tokens) :
    Rejected (tokens ++ token :: more) := by
  have start : (tokens ++ token :: more).head? ≠ some .streamEnd := by
    obtain ⟨first, others, rfl, begins⟩ := value.begins
    cases begins <;> simp
  rw [Rejected, Document.readFrom]
  simp only [if_true, if_neg start]
  split
  · exact List.mem_singleton_self _
  · rename_i document rest read
    rw [document_leaves inner value read]
    exact List.mem_cons_of_mem _ (later_document_marked inner _ _)

end
end ValuePath.FlowValues
