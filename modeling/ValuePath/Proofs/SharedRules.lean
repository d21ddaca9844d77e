import ValuePath.Proofs.Reloading

/-! JSON and YAML documents become values by the same rules. A JSON document has one value,
which the rules name, and the YAML document of the same shape has that value too: the keys of
an object are distinct strings, so that none of them are joined. -/
namespace ValuePath.SharedRules
open DistinctKeys NormalValues ReadBack Reloading
open Numeric (Binary64 Number)
open Yaml (Node)

/-! ## Integers -/

/-- The number as an integer of any size, unless it is a floating-point number. -/
def integer? : Number → Option Int
  | .natural n => some n.toNat
  | .negative n => some n.toInt
  | .float _ => none

/-- The value of an integer: the narrower of two widths where it fits, and the nearest double
where it fits neither. -/
inductive IntegerValue (n : Int) : Value → Prop where
  | int (short : Int32) (same : short.toInt = n) : IntegerValue n (.int short)
  | long (wide : Int64) (same : wide.toInt = n) (outside : n < -2 ^ 31 ∨ 2 ^ 31 ≤ n) :
      IntegerValue n (.long wide)
  | double (outside : n < -2 ^ 63 ∨ 2 ^ 63 ≤ n) : IntegerValue n (.double (.ofInt n))

theorem IntegerValue.unique {n : Int} {a b : Value} (left : IntegerValue n a)
    (right : IntegerValue n b) : a = b := by
  cases left with
  | int short same =>
    have low := short.le_toInt
    have high := short.toInt_lt
    cases right with
    | int other equal => rw [Int32.toInt_inj.mp (same.trans equal.symm)]
    | long _ _ outside => omega
    | double outside => omega
  | long wide same outside =>
    have low := wide.le_toInt
    have high := wide.toInt_lt
    cases right with
    | int short equal =>
      have least := short.le_toInt
      have greatest := short.toInt_lt
      omega
    | long other equal => rw [Int64.toInt_inj.mp (same.trans equal.symm)]
    | double beyond => omega
  | double outside =>
    cases right with
    | int short equal =>
      have low := short.le_toInt
      have high := short.toInt_lt
      omega
    | long wide equal =>
      have low := wide.le_toInt
      have high := wide.toInt_lt
      omega
    | double => rfl

theorem integerValue_narrowed {n : Int} (low : -2 ^ 63 ≤ n) (high : n < 2 ^ 63) :
    IntegerValue n (narrowed n) := by
  rw [narrowed]
  split
  · rename_i fits
    exact .int _ (Int32.toInt_ofInt_of_le fits.1 fits.2)
  · exact .long _ (Int64.toInt_ofInt_of_le low high) (by omega)

theorem integer_of_toInt64 {number : Number} {i : Int64} (signed : number.toInt64? = some i) :
    integer? number = some i.toInt := by
  cases number with
  | natural n =>
    rw [Number.toInt64?] at signed
    split at signed
    · rename_i fits
      cases signed
      rw [integer?, Int64.toInt_ofNat_of_lt fits]
    · cases signed
  | negative n =>
    cases signed
    rfl
  | float x => cases signed

/-- The signed reading comes first; what it leaves lies above the greatest signed integer. -/
theorem integerValue_ofNumber {number : Number} {n : Int} (whole : integer? number = some n) :
    IntegerValue n (Value.ofNumber number) := by
  cases signed : number.toInt64? with
  | some i =>
    cases (integer_of_toInt64 signed).symm.trans whole
    rw [ofNumber_integer signed]
    exact integerValue_narrowed i.le_toInt i.toInt_lt
  | none =>
    rw [Value.ofNumber, signed]
    cases number with
    | natural count =>
      cases whole
      rw [Number.toInt64?] at signed
      split at signed
      · cases signed
      · rename_i beyond
        have least : 2 ^ 63 ≤ count.toNat := Nat.le_of_not_lt beyond
        exact .double (.inr (by exact_mod_cast least))
    | negative i => cases signed
    | float x => cases whole

/-! ## The value of a JSON document -/

/-- The value follows from the document by the rules: integers by their size, floating-point
numbers as they are, arrays item by item, and objects with the same keys in the same order. -/
inductive Follows : Json → Value → Prop where
  | null : Follows .null .null
  | boolean (value : Bool) : Follows (.boolean value) (.boolean value)
  | integer (whole : integer? number = some n) (value : IntegerValue n result) :
      Follows (.number number) result
  | float (x : Binary64) : Follows (.number (.float x)) (.double x)
  | string (value : String) : Follows (.string value) (.string value)
  | array (items : List.Forall₂ Follows documents values) :
      Follows (.array documents) (.list values)
  | object (keys : Entries.keys held = Entries.keys entries)
      (values : List.Forall₂ Follows (Entries.values entries) (Entries.values held)) :
      Follows (.object entries) (.map held)

theorem follows_ofNumber (number : Number) : Follows (.number number) (Value.ofNumber number) := by
  cases number with
  | natural n => exact .integer rfl (integerValue_ofNumber rfl)
  | negative n => exact .integer rfl (integerValue_ofNumber rfl)
  | float x => exact .float x

theorem ofNumber_of_follows {number : Number} {value : Value}
    (follows : Follows (.number number) value) : Value.ofNumber number = value := by
  cases follows with
  | integer whole result => exact (integerValue_ofNumber whole).unique result
  | float x => rfl

mutual
theorem follows_ofJson : (json : Json) → Follows json (Value.ofJson json)
  | .null => .null
  | .boolean value => .boolean value
  | .number number => follows_ofNumber number
  | .string value => .string value
  | .array items => .array (follows_ofJsonItems items)
  | .object entries => .object (keys_ofJsonEntries entries) (follows_ofJsonEntries entries)

theorem follows_ofJsonItems : (items : List Json) →
    List.Forall₂ Follows items (Value.ofJsonItems items)
  | [] => .nil
  | item :: rest => .cons (follows_ofJson item) (follows_ofJsonItems rest)

theorem follows_ofJsonEntries : (entries : List (String × Json)) →
    List.Forall₂ Follows (Entries.values entries) (Entries.values (Value.ofJsonEntries entries))
  | [] => .nil
  | (_, value) :: rest => .cons (follows_ofJson value) (follows_ofJsonEntries rest)
end

mutual
/-- The rules leave no choice. -/
theorem ofJson_of_follows : (json : Json) → (value : Value) → Follows json value →
    Value.ofJson json = value
  | .null, _, .null => rfl
  | .boolean _, _, .boolean _ => rfl
  | .number _, _, follows => ofNumber_of_follows follows
  | .string _, _, .string _ => rfl
  | .array items, _, .array follows =>
    congrArg Value.list (ofJsonItems_of_follows items _ follows)
  | .object entries, .map held, .object keys values =>
    congrArg Value.map (ofJsonEntries_of_follows entries held keys values)

theorem ofJsonItems_of_follows : (items : List Json) → (values : List Value) →
    List.Forall₂ Follows items values → Value.ofJsonItems items = values
  | [], _, .nil => rfl
  | item :: rest, value :: values, .cons follows others =>
    congr (congrArg List.cons (ofJson_of_follows item value follows))
      (ofJsonItems_of_follows rest values others)

theorem ofJsonEntries_of_follows : (entries : List (String × Json)) →
    (held : List (String × Value)) → Entries.keys held = Entries.keys entries →
    List.Forall₂ Follows (Entries.values entries) (Entries.values held) →
      Value.ofJsonEntries entries = held
  | [], [], _, _ => rfl
  | (key, item) :: rest, (name, value) :: held, keys, .cons follows others => by
    obtain ⟨rfl, behind⟩ := List.cons.inj keys
    rw [Value.ofJsonEntries, ofJson_of_follows item value follows,
      ofJsonEntries_of_follows rest held behind others]
  | [], _ :: _, keys, _ => by cases keys
  | _ :: _, [], keys, _ => by cases keys
end

/-! ## The YAML document of the same shape -/

mutual
/-- The YAML document with the same shape, the same numbers and the entries in the same order. -/
def asYaml : Json → Node
  | .null => .null
  | .boolean value => .boolean value
  | .number number => .number number
  | .string value => .string value
  | .array items => .sequence (asYamlItems items)
  | .object entries => .mapping (asYamlEntries entries)

def asYamlItems : List Json → List Node
  | [] => []
  | item :: rest => asYaml item :: asYamlItems rest

def asYamlEntries : List (String × Json) → List (Node × Node)
  | [] => []
  | (key, value) :: rest => (.string key, asYaml value) :: asYamlEntries rest
end

mutual
/-- In every object of the document the keys are distinct. -/
def Unrepeated : Json → Prop
  | .array items => UnrepeatedItems items
  | .object entries => Entries.Distinct entries ∧ UnrepeatedEntries entries
  | _ => True

def UnrepeatedItems : List Json → Prop
  | [] => True
  | item :: rest => Unrepeated item ∧ UnrepeatedItems rest

def UnrepeatedEntries : List (String × Json) → Prop
  | [] => True
  | (_, value) :: rest => Unrepeated value ∧ UnrepeatedEntries rest
end

theorem keys_asYamlEntries (entries : List (String × Json)) :
    Entries.keys (Value.ofYamlEntries (asYamlEntries entries)) = Entries.keys entries := by
  induction entries with
  | nil => rfl
  | cons entry rest ih =>
    rw [asYamlEntries, Value.ofYamlEntries, keys_cons, ih]
    rfl

/-- Joining keeps all entries only if there is nothing to join. -/
theorem joined_eq_iff {pairs others : List (String × Value)}
    (same : Entries.keys pairs = Entries.keys others) :
    Entries.ofPairs pairs = others ↔ Entries.Distinct others ∧ pairs = others := by
  constructor
  · intro joined
    have distinct : Entries.Distinct others := joined ▸ distinct_ofPairs pairs
    have apart : Entries.Distinct pairs := by rwa [Entries.Distinct, same]
    exact ⟨distinct, (ofPairs_of_distinct apart).symm.trans joined⟩
  · rintro ⟨distinct, rfl⟩
    exact ofPairs_of_distinct distinct

mutual
theorem ofYaml_asYaml_iff : (json : Json) →
    (Value.ofYaml (asYaml json) = Value.ofJson json ↔ Unrepeated json)
  | .null => ⟨fun _ => trivial, fun _ => rfl⟩
  | .boolean _ => ⟨fun _ => trivial, fun _ => rfl⟩
  | .number _ => ⟨fun _ => trivial, fun _ => rfl⟩
  | .string _ => ⟨fun _ => trivial, fun _ => rfl⟩
  | .array items => by
    rw [asYaml, Value.ofYaml, Value.ofJson, Value.list.injEq, Unrepeated]
    exact ofYamlItems_asYaml_iff items
  | .object entries => by
    have same := (keys_asYamlEntries entries).trans (keys_ofJsonEntries entries).symm
    rw [asYaml, Value.ofYaml, Value.ofJson, Value.map.injEq, Unrepeated, joined_eq_iff same,
      Entries.Distinct, keys_ofJsonEntries, Entries.Distinct, ofYamlEntries_asYaml_iff entries]

theorem ofYamlItems_asYaml_iff : (items : List Json) →
    (Value.ofYamlItems (asYamlItems items) = Value.ofJsonItems items ↔ UnrepeatedItems items)
  | [] => ⟨fun _ => trivial, fun _ => rfl⟩
  | item :: rest => by
    rw [asYamlItems, Value.ofYamlItems, Value.ofJsonItems, List.cons.injEq, UnrepeatedItems,
      ofYaml_asYaml_iff item, ofYamlItems_asYaml_iff rest]

theorem ofYamlEntries_asYaml_iff : (entries : List (String × Json)) →
    (Value.ofYamlEntries (asYamlEntries entries) = Value.ofJsonEntries entries ↔
      UnrepeatedEntries entries)
  | [] => ⟨fun _ => trivial, fun _ => rfl⟩
  | (key, value) :: rest => by
    rw [asYamlEntries, Value.ofYamlEntries, Value.ofJsonEntries, List.cons.injEq,
      UnrepeatedEntries, Prod.mk.injEq, ofYaml_asYaml_iff value, ofYamlEntries_asYaml_iff rest,
      Value.ofYamlKey, eq_self_iff_true, true_and]
end

mutual
theorem unrepeated_of_arranged : (json : Json) → Arranged json → Unrepeated json
  | .null, _ | .boolean _, _ | .number _, _ | .string _, _ => trivial
  | .array items, arranged => unrepeatedItems_of_arranged items arranged
  | .object entries, arranged =>
    ⟨arranged.1.distinct, unrepeatedEntries_of_arranged entries arranged.2⟩

theorem unrepeatedItems_of_arranged : (items : List Json) → ArrangedItems items →
    UnrepeatedItems items
  | [], _ => trivial
  | item :: rest, arranged =>
    ⟨unrepeated_of_arranged item arranged.1, unrepeatedItems_of_arranged rest arranged.2⟩

theorem unrepeatedEntries_of_arranged : (entries : List (String × Json)) →
    ArrangedEntries entries → UnrepeatedEntries entries
  | [], _ => trivial
  | (_, value) :: rest, arranged =>
    ⟨unrepeated_of_arranged value arranged.1, unrepeatedEntries_of_arranged rest arranged.2⟩
end

/-- A document that is read from a text repeats no key, so that its value is the same in YAML. -/
theorem ofYaml_asYaml_of_read {text : List Char} {json : Json}
    (read : Json.parse? text = some json) : Value.ofYaml (asYaml json) = Value.ofJson json := by
  obtain ⟨document, -, rfl, -⟩ := JsonReading.parse_iff.mp read
  have arranged := arranged_meaning document.source
  exact (ofYaml_asYaml_iff _).mpr (unrepeated_of_arranged _ arranged)

/-- The two formats agree: the YAML document of the same shape has the value of the JSON
document, with all maps in the same order, exactly if no object repeats a key, and none does
in a document that is read. That value is the one that follows by the rules. -/
theorem formats_share_rules :
    (∀ json, Value.ofYaml (asYaml json) = Value.ofJson json ↔ Unrepeated json) ∧
    ∀ json value, Value.ofJson json = value ↔ Follows json value := by
  refine ⟨ofYaml_asYaml_iff, fun json value => ⟨?_, ofJson_of_follows json value⟩⟩
  rintro rfl
  exact follows_ofJson json

/-- Two keys that stand against the order of their letters, and integers on both sides of
three boundaries. -/
example : Value.ofYaml (asYaml (.object
      [("b", .array [.number (.natural 2147483647), .number (.natural 2147483648)]),
        ("a", .array [.number (.negative (-2147483648)), .number (.negative (-2147483649)),
          .number (.natural 9223372036854775807), .number (.natural 9223372036854775808)])])) =
    .map [("b", .list [.int 2147483647, .long 2147483648]),
      ("a", .list [.int (-2147483648), .long (-2147483649), .long 9223372036854775807,
        .double ⟨0x43E0000000000000⟩])] := by
  rfl

end ValuePath.SharedRules
