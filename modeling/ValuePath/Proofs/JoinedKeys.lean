import ValuePath.Document.Convert
import ValuePath.Proofs.DistinctKeys

/-! What becomes of the keys of a YAML mapping. Keys of all kinds turn into strings, and
those that turn into one string are joined: they stand where the first of them stood and
hold what was under the last. -/
namespace ValuePath.JoinedKeys
open DistinctKeys
open Yaml (Node)

/-! ## Entries by the strings of their keys -/

/-- The strings that the keys turn into, in the order of the document. -/
def rendered (entries : List (Node × Node)) : List String :=
  entries.map fun entry => Value.ofYamlKey entry.1

/-- The node stands under the last of the keys that turn into this string. -/
def LastUnder (entries : List (Node × Node)) (key : String) (node : Node) : Prop :=
  ∃ before name after, entries = before ++ (name, node) :: after ∧
    Value.ofYamlKey name = key ∧ key ∉ rendered after

theorem LastUnder.mem {entries : List (Node × Node)} {key : String} {node : Node}
    (last : LastUnder entries key node) : ∃ name, (name, node) ∈ entries := by
  obtain ⟨before, name, after, rfl, -, -⟩ := last
  exact ⟨name, List.mem_append_right _ List.mem_cons_self⟩

/-- Whatever string there is, one of the keys is the last to turn into it. -/
theorem exists_lastUnder {entries : List (Node × Node)} {key : String}
    (member : key ∈ rendered entries) : ∃ node, LastUnder entries key node := by
  induction entries with
  | nil => cases member
  | cons entry rest ih =>
    by_cases later : key ∈ rendered rest
    · obtain ⟨node, before, name, after, rfl, same, fresh⟩ := ih later
      exact ⟨node, entry :: before, name, after, rfl, same, fresh⟩
    · rcases List.mem_cons.mp member with same | behind
      · exact ⟨entry.2, [], entry.1, rest, rfl, same.symm, later⟩
      · exact absurd behind later

theorem ofYamlEntries_eq_map (entries : List (Node × Node)) : Value.ofYamlEntries entries =
    entries.map fun entry => (Value.ofYamlKey entry.1, Value.ofYaml entry.2) := by
  induction entries with
  | nil => rfl
  | cons entry rest ih => rw [Value.ofYamlEntries, List.map_cons, ih]

theorem keys_ofYamlEntries (entries : List (Node × Node)) :
    Entries.keys (Value.ofYamlEntries entries) = rendered entries := by
  rw [Entries.keys, ofYamlEntries_eq_map, List.map_map]
  rfl

theorem keys_joined (entries : List (Node × Node)) :
    Entries.keys (Entries.ofPairs (Value.ofYamlEntries entries)) =
      (rendered entries).eraseDups := by
  rw [keys_ofPairs, keys_ofYamlEntries]

/-- Under a string is the value of the last node: no later entry replaces it. -/
theorem find_joined {entries : List (Node × Node)} {key : String} {node : Node}
    (last : LastUnder entries key node) :
    Entries.find? key (Entries.ofPairs (Value.ofYamlEntries entries)) =
      some (Value.ofYaml node) := by
  obtain ⟨before, name, after, rfl, rfl, fresh⟩ := last
  have behind : Entries.find? (Value.ofYamlKey name) (Value.ofYamlEntries after).reverse = none := by
    rw [← Option.not_isSome_iff_eq_none, find_isSome_iff, Entries.keys, List.map_reverse,
      List.mem_reverse]
    rwa [← keys_ofYamlEntries] at fresh
  rw [find_ofPairs, ofYamlEntries_eq_map, List.map_append, List.map_cons, List.reverse_append,
    List.reverse_cons, List.append_assoc, ← ofYamlEntries_eq_map after, find_append, behind]
  simp [Entries.find?]

/-! ## The value of a document -/

/-- The value is what the document stands for. At every depth a mapping has each string once,
where it stood first, with a value of the node that is last under it; the value below a tag
is the value of what is tagged. -/
inductive Stands : Node → Value → Prop where
  | null : Stands .null .null
  | boolean (value : Bool) : Stands (.boolean value) (.boolean value)
  | number (value : Numeric.Number) : Stands (.number value) (.ofNumber value)
  | string (value : String) : Stands (.string value) (.string value)
  | sequence (items : List.Forall₂ Stands nodes values) : Stands (.sequence nodes) (.list values)
  | mapping (keys : Entries.keys held = (rendered entries).eraseDups)
      (last : ∀ key node value, LastUnder entries key node → (key, value) ∈ held →
        Stands node value) : Stands (.mapping entries) (.map held)
  | tagged (tag : String) (value : Stands node held) : Stands (.tagged tag node) held

mutual
theorem stands_ofYaml : (node : Node) → Stands node (Value.ofYaml node)
  | .null => .null
  | .boolean value => .boolean value
  | .number value => .number value
  | .string value => .string value
  | .sequence items => .sequence (stands_ofYamlItems items)
  | .mapping entries => by
    refine .mapping (keys_joined entries) fun key node value last member => ?_
    have held := find_of_mem (distinct_ofPairs _) member
    rw [find_joined last] at held
    cases held
    obtain ⟨name, among⟩ := last.mem
    exact stands_ofYamlEntries entries _ among
  | .tagged tag value => .tagged tag (stands_ofYaml value)

theorem stands_ofYamlItems : (items : List Node) →
    List.Forall₂ Stands items (Value.ofYamlItems items)
  | [] => .nil
  | item :: rest => .cons (stands_ofYaml item) (stands_ofYamlItems rest)

theorem stands_ofYamlEntries : (entries : List (Node × Node)) →
    ∀ entry ∈ entries, Stands entry.2 (Value.ofYaml entry.2)
  | [] => by simp
  | (_, value) :: rest =>
    List.forall_mem_cons.mpr ⟨stands_ofYaml value, stands_ofYamlEntries rest⟩
end

mutual
/-- A document stands for one value only. In a mapping the strings say which keys there are
and in which order, and the last nodes say what is under them. -/
theorem ofYaml_of_stands : (node : Node) → (value : Value) → Stands node value →
    Value.ofYaml node = value
  | .null, _, .null => rfl
  | .boolean _, _, .boolean _ => rfl
  | .number _, _, .number _ => rfl
  | .string _, _, .string _ => rfl
  | .sequence items, _, .sequence stands =>
    congrArg Value.list (ofYamlItems_of_stands items _ stands)
  | .mapping entries, .map held, .mapping keys last => by
    have same : Entries.keys held =
        Entries.keys (Entries.ofPairs (Value.ofYamlEntries entries)) :=
      keys.trans (keys_joined entries).symm
    have distinct : Entries.Distinct held := by
      rw [Entries.Distinct, same]
      exact distinct_ofPairs _
    refine congrArg Value.map (eq_of_same_keys distinct same fun key value member => ?_).symm
    have mentioned : key ∈ rendered entries := by
      rw [← List.mem_eraseDups, ← keys]
      exact List.mem_map.mpr ⟨_, member, rfl⟩
    obtain ⟨node, lastNode⟩ := exists_lastUnder mentioned
    obtain ⟨name, among⟩ := lastNode.mem
    rw [find_joined lastNode]
    exact congrArg some
      (ofYamlEntries_of_stands entries _ among value (last key node value lastNode member))
  | .tagged _ node, value, .tagged _ stands => ofYaml_of_stands node value stands

theorem ofYamlItems_of_stands : (items : List Node) → (values : List Value) →
    List.Forall₂ Stands items values → Value.ofYamlItems items = values
  | [], _, .nil => rfl
  | item :: rest, value :: values, .cons stands others =>
    congr (congrArg List.cons (ofYaml_of_stands item value stands))
      (ofYamlItems_of_stands rest values others)

theorem ofYamlEntries_of_stands : (entries : List (Node × Node)) →
    ∀ entry ∈ entries, ∀ value, Stands entry.2 value → Value.ofYaml entry.2 = value
  | [] => by simp
  | (_, node) :: rest => List.forall_mem_cons.mpr
    ⟨fun value stands => ofYaml_of_stands node value stands, ofYamlEntries_of_stands rest⟩
end

theorem ofYaml_iff {node : Node} {value : Value} : Value.ofYaml node = value ↔ Stands node value := by
  constructor
  · rintro rfl
    exact stands_ofYaml node
  · exact ofYaml_of_stands node value

/-- The value of a document has the keys of every mapping, at every depth, as strings without
repeats in the order of their first appearance, each with the value of the last node under it.
No string is lost, and a mapping keeps the number of its entries just if no two of its keys
turn into one string. -/
theorem keys_join_as_strings :
    (∀ node value, Value.ofYaml node = value ↔ Stands node value) ∧
    ∀ entries held, Stands (.mapping entries) (.map held) →
      (∀ key ∈ rendered entries, ∃ node value, LastUnder entries key node ∧
        (key, value) ∈ held ∧ Stands node value) ∧
      (held.length = entries.length ↔ (rendered entries).Nodup) := by
  refine ⟨fun _ _ => ofYaml_iff, fun entries held stands => ?_⟩
  obtain rfl : Entries.ofPairs (Value.ofYamlEntries entries) = held :=
    Value.map.inj (ofYaml_iff.mpr stands)
  refine ⟨fun key mentioned => ?_, ?_⟩
  · obtain ⟨node, last⟩ := exists_lastUnder mentioned
    exact ⟨node, _, last, mem_of_find (find_joined last), stands_ofYaml node⟩
  · have count : entries.length = (Value.ofYamlEntries entries).length := by
      rw [ofYamlEntries_eq_map, List.length_map]
    rw [count, length_ofPairs_iff, Entries.Distinct, keys_ofYamlEntries]

/-- A list with one tagged form. The number 1 and the text "1" share a place, and so do null
under a tag and the text "null", while the key "b" stays alone between them. -/
theorem tagged_form_joins_keys :
    let form : List (Node × Node) := [(.number (.natural 1), .boolean true),
      (.string "b", .null), (.tagged "!none" .null, .string "c"), (.string "null", .string "d"),
      (.string "1", .boolean false)]
    let held : List (String × Value) :=
      [("1", .boolean false), ("b", .null), ("null", .string "d")]
    Stands (.sequence [.tagged "!form" (.mapping form)]) (.list [.map held]) ∧
      Stands (.mapping form) (.map held) ∧
      (∃ node value, LastUnder form "null" node ∧ ("null", value) ∈ held ∧ Stands node value) ∧
      ¬ (rendered form).Nodup := by
  intro form held
  obtain ⟨values, mappings⟩ := keys_join_as_strings
  have stands : Stands (.mapping form) (.map held) := (values _ _).mp rfl
  obtain ⟨kept, alone⟩ := mappings form held stands
  refine ⟨(values _ _).mp rfl, stands, kept "null" (by decide), fun apart => ?_⟩
  cases alone.mpr apart

end ValuePath.JoinedKeys
