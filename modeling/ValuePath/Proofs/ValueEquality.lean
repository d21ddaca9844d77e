import Mathlib.Data.List.Forall2
import Mathlib.Data.List.Perm.Subperm
import ValuePath.Value.Equality
import ValuePath.Proofs.DistinctKeys
import ValuePath.Proofs.NumericEquality

/-! Equality of values is symmetric and transitive. It is not reflexive: a value
equals itself unless something that is not a number stands in it. Maps that hold
each key once are equal when both find equal values under every key, so the order
of their entries does not matter. -/
namespace ValuePath.ValueEquality
open DistinctKeys NumericEquality

/-- What is not a number stands in a value, at whatever depth. Nothing is looked
up in an object. -/
inductive HoldsNaN : Value → Prop where
  | float {x : Numeric.Binary32} (undefined : NotANumber .single x.bits.toNat) :
      HoldsNaN (.float x)
  | double {x : Numeric.Binary64} (undefined : NotANumber .double x.bits.toNat) :
      HoldsNaN (.double x)
  | inArray (member : item ∈ items) (inside : HoldsNaN item) : HoldsNaN (.array items)
  | inList (member : item ∈ items) (inside : HoldsNaN item) : HoldsNaN (.list items)
  | inMap (member : (key, value) ∈ entries) (inside : HoldsNaN value) : HoldsNaN (.map entries)

/-! ## Values from inside -/

/-- What holds of values without parts, and of sequences and maps if it holds of
their parts. -/
structure Inherited (holds : Value → Prop) : Prop where
  leaf : ∀ value, value.asItems? = none → value.asEntries? = none → holds value
  array : ∀ items, (∀ item ∈ items, holds item) → holds (.array items)
  list : ∀ items, (∀ item ∈ items, holds item) → holds (.list items)
  map : ∀ entries, (∀ entry ∈ entries, holds entry.2) → holds (.map entries)

mutual
private theorem Inherited.value {holds : Value → Prop} (inherited : Inherited holds) :
    (value : Value) → holds value
  | .array items => inherited.array items (inherited.items items)
  | .list items => inherited.list items (inherited.items items)
  | .map entries => inherited.map entries (inherited.entries entries)
  | .null | .boolean _ | .byte _ | .char _ | .short _ | .int _ | .long _ | .float _ | .double _
  | .string _ | .object _ => inherited.leaf _ rfl rfl

private theorem Inherited.items {holds : Value → Prop} (inherited : Inherited holds) :
    (items : List Value) → ∀ item ∈ items, holds item
  | [] => by simp
  | first :: rest => List.forall_mem_cons.mpr ⟨inherited.value first, inherited.items rest⟩

private theorem Inherited.entries {holds : Value → Prop} (inherited : Inherited holds) :
    (entries : List (String × Value)) → ∀ entry ∈ entries, holds entry.2
  | [] => by simp
  | (_, value) :: rest =>
    List.forall_mem_cons.mpr ⟨inherited.value value, inherited.entries rest⟩
end

/-- Induction from the parts of sequences and maps to the whole of them. -/
@[elab_as_elim]
theorem inside_out {holds : Value → Prop} (value : Value)
    (leaf : ∀ value, value.asItems? = none → value.asEntries? = none → holds value)
    (array : ∀ items, (∀ item ∈ items, holds item) → holds (.array items))
    (list : ∀ items, (∀ item ∈ items, holds item) → holds (.list items))
    (map : ∀ entries, (∀ entry ∈ entries, holds entry.2) → holds (.map entries)) : holds value :=
  Inherited.value ⟨leaf, array, list, map⟩ value

theorem distinctKeys_items {items : List Value} :
    Value.DistinctKeysItems items ↔ ∀ item ∈ items, item.DistinctKeys := by
  induction items with
  | nil => simp [Value.DistinctKeysItems]
  | cons first rest ih => rw [Value.DistinctKeysItems, List.forall_mem_cons, ih]

theorem distinctKeys_entries {entries : List (String × Value)} :
    Value.DistinctKeysEntries entries ↔ ∀ entry ∈ entries, entry.2.DistinctKeys := by
  induction entries with
  | nil => simp [Value.DistinctKeysEntries]
  | cons entry rest ih => rw [Value.DistinctKeysEntries, List.forall_mem_cons, ih]

/-! ## What sequences and maps are compared by -/

/-- Both values are equal, the first one asked. -/
def Equal (value other : Value) : Prop := value.equals other = true

theorem equalItems_iff {items others : List Value} :
    Value.equalItems items others = true ↔ List.Forall₂ Equal items others := by
  induction items generalizing others with
  | nil => cases others <;> simp [Value.equalItems]
  | cons item rest ih =>
    cases others with
    | nil => simp [Value.equalItems]
    | cons other more => rw [Value.equalItems, Bool.and_eq_true, ih, List.forall₂_cons, Equal]

/-- Every entry has an equal one under its key among the others. -/
theorem equalEntries_iff {entries others : List (String × Value)} :
    Value.equalEntries entries others = true ↔ ∀ entry ∈ entries, ∃ other,
      Entries.find? entry.1 others = some other ∧ entry.2.equals other = true := by
  induction entries with
  | nil => simp [Value.equalEntries]
  | cons entry rest ih =>
    obtain ⟨key, value⟩ := entry
    rw [Value.equalEntries, Bool.and_eq_true, ih, List.forall_mem_cons]
    apply and_congr_left'
    cases Entries.find? key others <;> simp

theorem keys_subset_of_equal {entries others : List (String × Value)}
    (equal : ∀ entry ∈ entries, ∃ other,
      Entries.find? entry.1 others = some other ∧ entry.2.equals other = true) :
    Entries.keys entries ⊆ Entries.keys others := by
  intro key member
  obtain ⟨entry, present, rfl⟩ := List.mem_map.mp member
  obtain ⟨other, found, -⟩ := equal entry present
  exact find_isSome_iff.mp (Option.isSome_of_eq_some found)

/-- Distinct keys that are all among as many others are the others. -/
theorem keys_perm_of_equal {entries others : List (String × Value)}
    (distinct : Entries.Distinct entries) (counts : entries.length = others.length)
    (equal : ∀ entry ∈ entries, ∃ other,
      Entries.find? entry.1 others = some other ∧ entry.2.equals other = true) :
    (Entries.keys entries).Perm (Entries.keys others) :=
  (List.subperm_of_subset distinct (keys_subset_of_equal equal)).perm_of_length_le
    (by simp [Entries.keys, counts])

theorem mem_keys_of_related {entries others : List (String × Value)}
    (related : ∀ key, Option.Rel Equal (Entries.find? key entries) (Entries.find? key others))
    (key : String) : key ∈ Entries.keys entries ↔ key ∈ Entries.keys others := by
  have here := related key
  rw [← find_isSome_iff, ← find_isSome_iff]
  generalize Entries.find? key entries = found at here ⊢
  generalize Entries.find? key others = foundToo at here ⊢
  cases here <;> simp

/-- Maps are equal if both find equal values, or nothing, under every key. -/
theorem equal_maps_iff {entries others : List (String × Value)}
    (distinct : Entries.Distinct entries) (othersDistinct : Entries.Distinct others) :
    Equal (.map entries) (.map others) ↔ ∀ key,
      Option.Rel Equal (Entries.find? key entries) (Entries.find? key others) := by
  rw [Equal, Value.equals, Bool.and_eq_true, beq_iff_eq, equalEntries_iff]
  constructor
  · rintro ⟨counts, equal⟩ key
    cases found : Entries.find? key entries with
    | some value =>
      obtain ⟨other, foundToo, same⟩ := equal (key, value) (mem_of_find found)
      rw [foundToo]
      exact .some same
    | none =>
      have absent : ¬ (Entries.find? key others).isSome := by
        rw [find_isSome_iff, ← (keys_perm_of_equal distinct counts equal).mem_iff,
          ← find_isSome_iff, found]
        exact Bool.false_ne_true
      rw [Option.not_isSome_iff_eq_none.mp absent]
      exact .none
  · intro related
    have perm : (Entries.keys entries).Perm (Entries.keys others) :=
      (List.perm_ext_iff_of_nodup distinct othersDistinct).mpr (mem_keys_of_related related)
    refine ⟨by simpa [Entries.keys] using perm.length_eq, fun entry member => ?_⟩
    have here := related entry.1
    rw [find_of_mem distinct member] at here
    generalize Entries.find? entry.1 others = found at here
    cases here with
    | some same => exact ⟨_, rfl, same⟩

/-! ## Symmetry and transitivity -/

theorem equal_arrays_iff {items others : List Value} :
    Equal (.array items) (.array others) ↔ List.Forall₂ Equal items others :=
  equalItems_iff

theorem equal_lists_iff {items others : List Value} :
    Equal (.list items) (.list others) ↔ List.Forall₂ Equal items others :=
  equalItems_iff

/-- Values without parts are equal if they are equal numbers of one width, or the
same value that is no number with a fraction. -/
theorem equal_leaf_iff {value other : Value} (noItems : value.asItems? = none)
    (noEntries : value.asEntries? = none) : Equal value other ↔
      (∃ x y, value = .float x ∧ other = .float y ∧
        EqualNumbers .single x.bits.toNat y.bits.toNat) ∨
      (∃ x y, value = .double x ∧ other = .double y ∧
        EqualNumbers .double x.bits.toNat y.bits.toNat) ∨
      (value = other ∧ value.kind? ≠ some .float ∧ value.kind? ≠ some .double) := by
  cases value with
  | array items => cases noItems
  | list items => cases noItems
  | map entries => cases noEntries
  | float x => cases other <;> simp [Equal, Value.equals, numericEq_single, Value.kind?]
  | double x => cases other <;> simp [Equal, Value.equals, numericEq_double, Value.kind?]
  | _ => cases other <;> simp [Equal, Value.equals, Value.kind?]

theorem equal_items_symm {items others : List Value}
    (ih : ∀ item ∈ items, item.DistinctKeys → ∀ other, other.DistinctKeys →
      Equal item other → Equal other item)
    (distinct : ∀ item ∈ items, item.DistinctKeys) (othersDistinct : ∀ other ∈ others,
      other.DistinctKeys) (equal : List.Forall₂ Equal items others) :
    List.Forall₂ Equal others items := by
  induction equal with
  | nil => exact .nil
  | cons first rest more =>
    rw [List.forall_mem_cons] at ih distinct othersDistinct
    exact .cons (ih.1 distinct.1 _ othersDistinct.1 first) (more ih.2 distinct.2 othersDistinct.2)

/-- What stands under a key of a map with distinct keys at every depth has them, too. -/
theorem distinctKeys_found {entries : List (String × Value)} {key : String} {value : Value}
    (distinct : (Value.map entries).DistinctKeys) (found : Entries.find? key entries = some value) :
    value.DistinctKeys :=
  distinctKeys_entries.mp distinct.2 (key, value) (mem_of_find found)

theorem equal_symm (value : Value) : value.DistinctKeys → ∀ other, other.DistinctKeys →
    Equal value other → Equal other value := by
  induction value using inside_out with
  | leaf value noItems noEntries =>
    intro distinct other otherDistinct equal
    rcases (equal_leaf_iff noItems noEntries).mp equal with
      ⟨x, y, rfl, rfl, numbers⟩ | ⟨x, y, rfl, rfl, numbers⟩ | ⟨rfl, -, -⟩
    · exact (numericEq_single y x).mpr numbers.symm
    · exact (numericEq_double y x).mpr numbers.symm
    · exact equal
  | array items ih =>
    intro distinct other otherDistinct equal
    cases other with
    | array others =>
      exact equal_arrays_iff.mpr (equal_items_symm ih (distinctKeys_items.mp distinct)
        (distinctKeys_items.mp otherDistinct) (equal_arrays_iff.mp equal))
    | _ => cases equal
  | list items ih =>
    intro distinct other otherDistinct equal
    cases other with
    | list others =>
      exact equal_lists_iff.mpr (equal_items_symm ih (distinctKeys_items.mp distinct)
        (distinctKeys_items.mp otherDistinct) (equal_lists_iff.mp equal))
    | _ => cases equal
  | map entries ih =>
    intro distinct other otherDistinct equal
    cases other with
    | map others =>
      refine (equal_maps_iff otherDistinct.1 distinct.1).mpr fun key => ?_
      have related := (equal_maps_iff distinct.1 otherDistinct.1).mp equal key
      generalize here : Entries.find? key entries = found at related ⊢
      generalize there : Entries.find? key others = foundToo at related ⊢
      cases related with
      | none => exact .none
      | some same =>
        exact .some (ih _ (mem_of_find here) (distinctKeys_found distinct here) _
          (distinctKeys_found otherDistinct there) same)
    | _ => cases equal

theorem equal_items_trans {items others more : List Value}
    (ih : ∀ item ∈ items, item.DistinctKeys → ∀ other third, other.DistinctKeys →
      third.DistinctKeys → Equal item other → Equal other third → Equal item third)
    (distinct : ∀ item ∈ items, item.DistinctKeys)
    (othersDistinct : ∀ other ∈ others, other.DistinctKeys)
    (moreDistinct : ∀ third ∈ more, third.DistinctKeys)
    (before : List.Forall₂ Equal items others) (after : List.Forall₂ Equal others more) :
    List.Forall₂ Equal items more := by
  induction before generalizing more with
  | nil => exact after
  | cons first rest later =>
    cases after with
    | cons second others =>
      rw [List.forall_mem_cons] at ih distinct othersDistinct moreDistinct
      exact .cons
        (ih.1 distinct.1 _ _ othersDistinct.1 moreDistinct.1 first second)
        (later ih.2 distinct.2 othersDistinct.2 moreDistinct.2 others)

theorem equal_trans (value : Value) : value.DistinctKeys → ∀ other third, other.DistinctKeys →
    third.DistinctKeys → Equal value other → Equal other third → Equal value third := by
  induction value using inside_out with
  | leaf value noItems noEntries =>
    intro distinct other third otherDistinct thirdDistinct before after
    rcases (equal_leaf_iff noItems noEntries).mp before with
      ⟨x, y, rfl, rfl, numbers⟩ | ⟨x, y, rfl, rfl, numbers⟩ | ⟨rfl, -, -⟩
    · cases third with
      | float z =>
        exact (numericEq_single x z).mpr (numbers.trans ((numericEq_single y z).mp after))
      | _ => cases after
    · cases third with
      | double z =>
        exact (numericEq_double x z).mpr (numbers.trans ((numericEq_double y z).mp after))
      | _ => cases after
    · exact after
  | array items ih =>
    intro distinct other third otherDistinct thirdDistinct before after
    cases other with
    | array others =>
      cases third with
      | array more =>
        exact equal_arrays_iff.mpr (equal_items_trans ih (distinctKeys_items.mp distinct)
          (distinctKeys_items.mp otherDistinct) (distinctKeys_items.mp thirdDistinct)
          (equal_arrays_iff.mp before) (equal_arrays_iff.mp after))
      | _ => cases after
    | _ => cases before
  | list items ih =>
    intro distinct other third otherDistinct thirdDistinct before after
    cases other with
    | list others =>
      cases third with
      | list more =>
        exact equal_lists_iff.mpr (equal_items_trans ih (distinctKeys_items.mp distinct)
          (distinctKeys_items.mp otherDistinct) (distinctKeys_items.mp thirdDistinct)
          (equal_lists_iff.mp before) (equal_lists_iff.mp after))
      | _ => cases after
    | _ => cases before
  | map entries ih =>
    intro distinct other third otherDistinct thirdDistinct before after
    cases other with
    | map others =>
      cases third with
      | map more =>
        refine (equal_maps_iff distinct.1 thirdDistinct.1).mpr fun key => ?_
        have left := (equal_maps_iff distinct.1 otherDistinct.1).mp before key
        have right := (equal_maps_iff otherDistinct.1 thirdDistinct.1).mp after key
        generalize here : Entries.find? key entries = found at left ⊢
        generalize there : Entries.find? key others = foundToo at left right
        generalize beyond : Entries.find? key more = last at right ⊢
        cases left with
        | none => exact right
        | some same =>
          cases right with
          | some sameToo =>
            exact .some (ih _ (mem_of_find here) (distinctKeys_found distinct here) _ _
              (distinctKeys_found otherDistinct there) (distinctKeys_found thirdDistinct beyond)
              same sameToo)
      | _ => cases after
    | _ => cases before

/-! ## Values that equal themselves -/

theorem holdsNaN_array_iff {items : List Value} :
    HoldsNaN (.array items) ↔ ∃ item ∈ items, HoldsNaN item := by
  constructor
  · rintro (_ | _ | ⟨member, inside⟩)
    exact ⟨_, member, inside⟩
  · rintro ⟨item, member, inside⟩
    exact .inArray member inside

theorem holdsNaN_list_iff {items : List Value} :
    HoldsNaN (.list items) ↔ ∃ item ∈ items, HoldsNaN item := by
  constructor
  · rintro (_ | _ | _ | ⟨member, inside⟩)
    exact ⟨_, member, inside⟩
  · rintro ⟨item, member, inside⟩
    exact .inList member inside

theorem holdsNaN_map_iff {entries : List (String × Value)} :
    HoldsNaN (.map entries) ↔ ∃ entry ∈ entries, HoldsNaN entry.2 := by
  constructor
  · rintro (_ | _ | _ | _ | ⟨member, inside⟩)
    exact ⟨_, member, inside⟩
  · rintro ⟨entry, member, inside⟩
    exact .inMap member inside

theorem equal_self_leaf_iff {value : Value} (noItems : value.asItems? = none)
    (noEntries : value.asEntries? = none) : Equal value value ↔ ¬ HoldsNaN value := by
  cases value with
  | array items => cases noItems
  | list items => cases noItems
  | map entries => cases noEntries
  | float x =>
    have undefined : HoldsNaN (.float x) ↔ NotANumber .single x.bits.toNat :=
      ⟨fun holds => by cases holds; assumption, .float⟩
    rw [undefined, ← equalNumbers_self_iff, ← numericEq_single, Equal, Value.equals]
  | double x =>
    have undefined : HoldsNaN (.double x) ↔ NotANumber .double x.bits.toNat :=
      ⟨fun holds => by cases holds; assumption, .double⟩
    rw [undefined, ← equalNumbers_self_iff, ← numericEq_double, Equal, Value.equals]
  | _ => exact iff_of_true (by simp [Equal, Value.equals]) nofun

/-- A map equals itself if every value in it does. -/
theorem equal_map_self_iff {entries : List (String × Value)}
    (distinct : Entries.Distinct entries) : Equal (.map entries) (.map entries) ↔
      ∀ entry ∈ entries, Equal entry.2 entry.2 := by
  rw [equal_maps_iff distinct distinct]
  constructor
  · intro related entry member
    have here := related entry.1
    rw [find_of_mem distinct member] at here
    cases here with
    | some same => exact same
  · intro same key
    cases found : Entries.find? key entries with
    | none => exact .none
    | some value => exact .some (same _ (mem_of_find found))

theorem equal_self_iff (value : Value) :
    value.DistinctKeys → (Equal value value ↔ ¬ HoldsNaN value) := by
  induction value using inside_out with
  | leaf value noItems noEntries => exact fun _ => equal_self_leaf_iff noItems noEntries
  | array items ih =>
    intro distinct
    rw [equal_arrays_iff, List.forall₂_same, holdsNaN_array_iff, not_exists]
    simp only [not_and]
    exact forall₂_congr fun item member => ih item member (distinctKeys_items.mp distinct item member)
  | list items ih =>
    intro distinct
    rw [equal_lists_iff, List.forall₂_same, holdsNaN_list_iff, not_exists]
    simp only [not_and]
    exact forall₂_congr fun item member => ih item member (distinctKeys_items.mp distinct item member)
  | map entries ih =>
    intro distinct
    rw [equal_map_self_iff distinct.1, holdsNaN_map_iff, not_exists]
    simp only [not_and]
    exact forall₂_congr fun entry member =>
      ih entry member (distinctKeys_entries.mp distinct.2 entry member)

/-- Equality of values is a partial equivalence: symmetric and transitive, and a
value equals itself unless something that is not a number stands in it. Numbers of
one width are equal as their bits say, maps are equal when they find equal values
under every key, whatever the order of their entries, and an object equals itself
alone. Maps hold each key once, at every depth. -/
theorem equality_is_partial_equivalence :
    (∀ value other : Value, value.DistinctKeys → other.DistinctKeys →
      value.equals other = true → other.equals value = true) ∧
    (∀ value other third : Value, value.DistinctKeys → other.DistinctKeys → third.DistinctKeys →
      value.equals other = true → other.equals third = true → value.equals third = true) ∧
    (∀ value : Value, value.DistinctKeys → (value.equals value = true ↔ ¬ HoldsNaN value)) ∧
    (∀ x y : Numeric.Binary32, (Value.float x).equals (.float y) = true ↔
      EqualNumbers .single x.bits.toNat y.bits.toNat) ∧
    (∀ x y : Numeric.Binary64, (Value.double x).equals (.double y) = true ↔
      EqualNumbers .double x.bits.toNat y.bits.toNat) ∧
    (∀ entries others : List (String × Value), (Value.map entries).DistinctKeys →
      (Value.map others).DistinctKeys → ((Value.map entries).equals (.map others) = true ↔
        ∀ key, Option.Rel (fun value other => value.equals other = true)
          (Entries.find? key entries) (Entries.find? key others))) ∧
    ∀ id other : ObjectId, (Value.object id).equals (.object other) = true ↔ id = other :=
  ⟨fun value other distinct otherDistinct => equal_symm value distinct other otherDistinct,
    fun value other third distinct otherDistinct thirdDistinct =>
      equal_trans value distinct other third otherDistinct thirdDistinct,
    equal_self_iff, numericEq_single, numericEq_double,
    fun _ _ distinct othersDistinct => equal_maps_iff distinct.1 othersDistinct.1,
    fun _ _ => beq_iff_eq⟩

/-- Three readings of one gauge, which differ in the order of their entries and in
the sign of a zero, and a fourth one that failed. -/
theorem readings_are_equal :
    let zero : Value := .double ⟨0⟩
    let negativeZero : Value := .double ⟨0x8000000000000000⟩
    let nan : Value := .double ⟨0x7ff8000000000000⟩
    let first : Value := .map [("at", .list [zero, .object 4]), ("unit", .string "mm")]
    let second : Value := .map [("unit", .string "mm"), ("at", .list [negativeZero, .object 4])]
    let third : Value := .map [("at", .list [negativeZero, .object 4]), ("unit", .string "mm")]
    let failed : Value := .map [("unit", .string "mm"), ("at", .array [nan])]
    first.DistinctKeys ∧ second.DistinctKeys ∧ third.DistinctKeys ∧ failed.DistinctKeys ∧
      first.equals second = true ∧ second.equals first = true ∧ second.equals third = true ∧
      first.equals third = true ∧ failed.equals failed = false ∧
      Option.Rel (fun value other : Value => value.equals other = true)
        (some (.list [zero, .object 4])) (some (.list [negativeZero, .object 4])) := by
  intro zero negativeZero nan first second third failed
  have distinct : first.DistinctKeys ∧ second.DistinctKeys ∧ third.DistinctKeys ∧
      failed.DistinctKeys := by
    simp [first, second, third, failed, zero, negativeZero, nan, Value.DistinctKeys,
      Value.DistinctKeysItems, Value.DistinctKeysEntries, Entries.Distinct, Entries.keys]
  obtain ⟨one, two, three, four⟩ := distinct
  obtain ⟨symm, trans, self, -, -, maps, -⟩ := equality_is_partial_equivalence
  have reordered : first.equals second = true := by decide
  have sign : second.equals third = true := by decide
  have undefined : HoldsNaN failed :=
    .inMap (List.mem_cons_of_mem _ List.mem_cons_self)
      (.inArray List.mem_cons_self (.double (by decide)))
  refine ⟨one, two, three, four, reordered, symm first second one two reordered, sign,
    trans first second third one two three reordered sign, ?_, ?_⟩
  · exact Bool.eq_false_iff.mpr fun equal => (self failed four).mp equal undefined
  · exact (maps _ _ one two).mp reordered "at"

end ValuePath.ValueEquality
