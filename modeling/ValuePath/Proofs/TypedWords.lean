import ValuePath.Program.Run
import ValuePath.Proofs.PlainSpellings
import ValuePath.Proofs.SharedRules

/-! What a word of the command line stands for where arguments have types: the data that it is as a
single YAML document, and else the word itself. Such data are a scalar as a rule, but a word that is
a collection of YAML becomes a list or a map. -/
namespace ValuePath.TypedWords
open Yaml PlainLines PlainSpellings Program
open Numeric (Number)
open SharedRules (IntegerValue integerValue_ofNumber)

/-! ## Scalars -/

/-- The value that a text spells as a plain scalar: null, a truth value or a number. -/
inductive Spells (text : String) : Value → Prop where
  | null (plain : Scalar.ofPlain text = .null) : Spells text .null
  | boolean (plain : Scalar.ofPlain text = .boolean value) : Spells text (.boolean value)
  | integer (plain : Scalar.ofPlain text = .number number)
      (whole : SharedRules.integer? number = some n) (value : IntegerValue n result) :
      Spells text result
  | float (plain : Scalar.ofPlain text = .number (.float x)) : Spells text (.double x)

/-- A tag that does not count: none, or one of the document's own. -/
def Uncounted (tag : Option String) : Prop := ∀ name ∈ tag, name.toList.head? = some '!'

/-- The value of a scalar with this text, which stands plain or not. Only the four tags for null,
truth values and numbers read the text of a scalar that is not plain. -/
inductive Denotes (text : String) : (tag : Option String) → (plain : Bool) → Value → Prop where
  | spelt (uncounted : Uncounted tag) (spells : Spells text value) : Denotes text tag true value
  | words (uncounted : Uncounted tag) (unspelt : Scalar.ofPlain text = .text) :
      Denotes text tag true (.string text)
  | quoted (uncounted : Uncounted tag) : Denotes text tag false (.string text)
  | null (spelt : Scalar.isNull text = true) :
      Denotes text (some "tag:yaml.org,2002:null") plain .null
  | boolean (spelt : Scalar.boolean? text = some value) :
      Denotes text (some "tag:yaml.org,2002:bool") plain (.boolean value)
  | integer (spelt : Scalar.integer? text.toList = some n) (fits : -2 ^ 63 ≤ n ∧ n < 2 ^ 64)
      (value : IntegerValue n result) : Denotes text (some "tag:yaml.org,2002:int") plain result
  | float (spelt : Scalar.float? text.toList = some x) :
      Denotes text (some "tag:yaml.org,2002:float") plain (.double x)
  | named (counted : name.toList.head? ≠ some '!')
      (other : name ∉ ["tag:yaml.org,2002:null", "tag:yaml.org,2002:bool",
        "tag:yaml.org,2002:int", "tag:yaml.org,2002:float"]) :
      Denotes text (some name) plain (.string text)

section
variable {text : String} {tag : Option String} {plain : Bool} {value : Value}

theorem spells_number {number : Number} (plain : Scalar.ofPlain text = .number number) :
    Spells text (Value.ofNumber number) := by
  cases number with
  | natural n => exact .integer plain rfl (integerValue_ofNumber rfl)
  | negative n => exact .integer plain rfl (integerValue_ofNumber rfl)
  | float x => exact .float plain

theorem integer_of_numberOf {n : Int} {number : Number} (fits : Scalar.numberOf? n = some number) :
    SharedRules.integer? number = some n ∧ -2 ^ 63 ≤ n ∧ n < 2 ^ 64 := by
  have size : (UInt64.size : Int) = 2 ^ 64 := rfl
  have least : Int64.minValue.toInt = -2 ^ 63 := rfl
  rw [Scalar.numberOf?] at fits
  split at fits
  next positive =>
    split at fits
    next small =>
      cases fits
      refine ⟨?_, by omega⟩
      rw [SharedRules.integer?, UInt64.toNat_ofNat_of_lt' (by omega), Int.toNat_of_nonneg positive]
    next => cases fits
  next negative =>
    split at fits
    next large =>
      cases fits
      refine ⟨?_, by omega⟩
      rw [SharedRules.integer?, Int64.toInt_ofInt_of_le (by omega) (by omega)]
    next => cases fits

theorem numberOf_exists {n : Int} (fits : -2 ^ 63 ≤ n ∧ n < 2 ^ 64) :
    ∃ number, Scalar.numberOf? n = some number := by
  have size : (UInt64.size : Int) = 2 ^ 64 := rfl
  have least : Int64.minValue.toInt = -2 ^ 63 := rfl
  rw [Scalar.numberOf?]
  by_cases positive : 0 ≤ n
  · exact ⟨_, by rw [if_pos positive, if_pos (by omega)]⟩
  · exact ⟨_, by rw [if_neg positive, if_pos (by omega)]⟩

/-- What a plain text stands for as data: what it spells, or else itself. -/
theorem ofPlain_iff : (Node.ofPlain? text).map Value.ofYaml = some value ↔
    Spells text value ∨ Scalar.ofPlain text = .text ∧ value = .string text := by
  rw [Node.ofPlain?]
  constructor
  · intro stands
    cases plain : Scalar.ofPlain text with
    | null =>
      rw [plain] at stands
      cases stands
      exact .inl (.null plain)
    | boolean truth =>
      rw [plain] at stands
      cases stands
      exact .inl (.boolean plain)
    | number number =>
      rw [plain] at stands
      cases stands
      exact .inl (spells_number plain)
    | oversized =>
      rw [plain] at stands
      cases stands
    | text =>
      rw [plain] at stands
      cases stands
      exact .inr ⟨rfl, rfl⟩
  · rintro ((plain | plain | ⟨plain, whole, integer⟩ | plain) | ⟨plain, rfl⟩) <;> rw [plain]
    · rfl
    · rfl
    · exact congrArg some ((integerValue_ofNumber whole).unique integer)
    · rfl
    · rfl

/-! ## Tags -/

theorem ofScalar_uncounted (uncounted : Uncounted tag) :
    Node.ofScalar? (Node.ownTag? tag).isSome tag plain text =
      if plain then Node.ofPlain? text else some (.string text) := by
  cases tag with
  | none => rfl
  | some name =>
    have own : (Node.ownTag? (some name)).isSome = true := by
      simp [Node.ownTag?, Option.filter, uncounted name rfl]
    rw [own]
    rfl

theorem ofScalar_counted {name : String} (counted : name.toList.head? ≠ some '!') :
    Node.ofScalar? (Node.ownTag? (some name)).isSome (some name) plain text =
      Node.ofTagged? name text := by
  have foreign : (Node.ownTag? (some name)).isSome = false := by
    simp [Node.ownTag?, Option.filter, counted]
  rw [foreign]
  rfl

theorem denotes_of_tagged {name : String} (counted : name.toList.head? ≠ some '!')
    (stands : (Node.ofTagged? name text).map Value.ofYaml = some value) :
    Denotes text (some name) plain value := by
  obtain ⟨node, found, rfl⟩ := Option.map_eq_some_iff.mp stands
  rw [Node.ofTagged?.eq_def] at found
  split at found
  · obtain ⟨truth, spelt, rfl⟩ := Option.map_eq_some_iff.mp found
    exact .boolean spelt
  · obtain ⟨number, fits, rfl⟩ := Option.map_eq_some_iff.mp found
    obtain ⟨n, spelt, fits⟩ := Option.bind_eq_some_iff.mp fits
    obtain ⟨whole, bounds⟩ := integer_of_numberOf fits
    exact .integer spelt bounds (integerValue_ofNumber whole)
  · obtain ⟨x, spelt, rfl⟩ := Option.map_eq_some_iff.mp found
    exact .float spelt
  · split at found
    next spelt =>
      cases found
      exact .null spelt
    next => cases found
  next boolean integer float null =>
    cases found
    refine .named counted ?_
    simp only [List.mem_cons, List.not_mem_nil, or_false, not_or]
    exact ⟨null, boolean, integer, float⟩

/-- What a scalar denotes is what it stands for as data. -/
theorem denotes_iff : Denotes text tag plain value ↔
    (Node.ofScalar? (Node.ownTag? tag).isSome tag plain text).map Value.ofYaml = some value := by
  constructor
  · intro denotes
    cases denotes with
    | spelt uncounted spells =>
      rw [ofScalar_uncounted uncounted]
      exact ofPlain_iff.mpr (.inl spells)
    | words uncounted unspelt =>
      rw [ofScalar_uncounted uncounted]
      exact ofPlain_iff.mpr (.inr ⟨unspelt, rfl⟩)
    | quoted uncounted =>
      rw [ofScalar_uncounted uncounted]
      rfl
    | null spelt =>
      rw [ofScalar_counted (by decide), Node.ofTagged?, if_pos spelt]
      rfl
    | boolean spelt =>
      rw [ofScalar_counted (by decide), Node.ofTagged?, spelt]
      rfl
    | integer spelt fits integer =>
      obtain ⟨number, found⟩ := numberOf_exists fits
      have whole := (integer_of_numberOf found).1
      rw [ofScalar_counted (by decide), Node.ofTagged?, spelt, Option.bind_some, found]
      exact congrArg some ((integerValue_ofNumber whole).unique integer)
    | float spelt =>
      rw [ofScalar_counted (by decide), Node.ofTagged?, spelt]
      rfl
    | named counted other =>
      rw [ofScalar_counted counted, Node.ofTagged?.eq_def]
      split <;> first | rfl | exact absurd (by decide) other
  · intro stands
    by_cases uncounted : Uncounted tag
    · rw [ofScalar_uncounted uncounted] at stands
      cases plain with
      | true =>
        rcases ofPlain_iff.mp stands with spells | ⟨unspelt, rfl⟩
        · exact .spelt uncounted spells
        · exact .words uncounted unspelt
      | false =>
        cases stands
        exact .quoted uncounted
    · cases tag with
      | none => exact absurd nofun uncounted
      | some name =>
        have counted : name.toList.head? ≠ some '!' := by
          rintro own
          exact uncounted fun _ same => by cases same; exact own
        rw [ofScalar_counted counted] at stands
        exact denotes_of_tagged counted stands

end

/-! ## Documents -/

/-- The word is a single YAML document, a scalar with this text. -/
def Holds (word : String) (tag : Option String) (plain : Bool) (text : String) : Prop :=
  ∃ anchors, Document.readAll word.toList = [some ⟨.scalar tag plain text, anchors⟩]

section
variable {word text : String} {tag : Option String} {plain : Bool} {value : Value}

theorem parseArgument_typed (word : String) : parseArgument true word =
    ((Node.ofText? word.toList).map Value.ofYaml).getD (.string word) := by
  rw [parseArgument, if_pos rfl]
  cases Node.ofText? word.toList <;> rfl

theorem ofText_single {document : Document}
    (single : Document.readAll word.toList = [some document]) :
    Node.ofText? word.toList = Node.ofDocument? document := by
  unfold Node.ofText?
  rw [Node.documents, single]
  rfl

/-- Data stand only for a single document. -/
theorem single_of_ofText {node : Node} (stands : Node.ofText? word.toList = some node) :
    ∃ document, Document.readAll word.toList = [some document] ∧
      Node.ofDocument? document = some node := by
  unfold Node.ofText? at stands
  split at stands
  next found alone =>
    rw [Node.documents, List.map_eq_singleton_iff] at alone
    obtain ⟨document, single, rfl⟩ := alone
    obtain ⟨document, rfl, resolved⟩ := Option.bind_eq_some_iff.mp stands
    exact ⟨document, single, resolved⟩
  next => cases stands

/-- A tag of the document's own stays with a scalar, but changes nothing in its value. -/
theorem ofDocument_scalar (anchors : Anchors) :
    (Node.ofDocument? ⟨.scalar tag plain text, anchors⟩).map Value.ofYaml =
      (Node.ofScalar? (Node.ownTag? tag).isSome tag plain text).map Value.ofYaml := by
  rw [Node.ofDocument?, Node.resolve.eq_def]
  cases own : Node.ownTag? tag with
  | none =>
    simp only [own, Option.isSome_none]
    cases Node.ofScalar? false tag plain text <;> rfl
  | some name =>
    simp only [own, Option.isSome_some]
    cases Node.ofScalar? true tag plain text <;> rfl

/-- A word that is a scalar has the value of it, and is taken as it stands if there is none. -/
theorem holds_value (holds : Holds word tag plain text) :
    (∀ value, Denotes text tag plain value → parseArgument true word = value) ∧
      ((∀ value, ¬ Denotes text tag plain value) → parseArgument true word = .string word) := by
  obtain ⟨anchors, single⟩ := holds
  rw [parseArgument_typed, ofText_single single, ofDocument_scalar]
  constructor
  · intro value denotes
    rw [denotes_iff.mp denotes]
    rfl
  · intro none
    have nothing := Option.eq_none_iff_forall_not_mem.mpr fun value stands =>
      none value (denotes_iff.mpr stands)
    rw [nothing]
    rfl

end

/-! ## Collections -/

/-- What a collection becomes: a sequence a list, and a mapping a map. -/
inductive Collected : Content → Value → Prop where
  | list (tag : Option String) (nested : List Content) (items : List Value) :
      Collected (.sequence tag nested) (.list items)
  | map (tag : Option String) (nested : List (Content × Content))
      (entries : List (String × Value)) : Collected (.mapping tag nested) (.map entries)

/-- The word is a single YAML document, a collection that stands for these data. -/
def HoldsCollection (word : String) (value : Value) : Prop :=
  ∃ document node, Document.readAll word.toList = [some document] ∧
    Node.ofDocument? document = some node ∧ Value.ofYaml node = value ∧
    Collected document.content value

/-- What a step returns that only changes the result of another one. -/
theorem returned {α β : Type} {step : StateT Nat Option α} {change : α → β} {before : Nat}
    {result : β × Nat}
    (run : (step >>= fun found => pure (change found)).run before = some result) :
    ∃ found after, step.run before = some (found, after) ∧ result.1 = change found := by
  rw [StateT.run_bind] at run
  obtain ⟨⟨found, after⟩, first, last⟩ := Option.bind_eq_some_iff.mp run
  cases last
  exact ⟨found, after, first, rfl⟩

section
variable {anchors : Anchors} {limit fuel depth before : Nat} {tag : Option String}
  {result : Node × Nat}

theorem resolve_sequence {nested : List Content}
    (resolved : (Node.resolve anchors limit (fuel + 1) (depth + 1) false
      (.sequence tag nested)).run before = some result) :
    Collected (.sequence tag nested) (Value.ofYaml result.1) := by
  rw [Node.resolve.eq_def] at resolved
  cases own : Node.ownTag? tag with
  | none =>
    simp only [own] at resolved
    obtain ⟨items, after, -, same⟩ := returned resolved
    exact same ▸ .list ..
  | some name =>
    simp only [own] at resolved
    obtain ⟨inner, after, collected, same⟩ := returned resolved
    obtain ⟨items, -, -, rfl⟩ := returned collected
    exact same ▸ .list ..

theorem resolve_mapping {nested : List (Content × Content)}
    (resolved : (Node.resolve anchors limit (fuel + 1) (depth + 1) false
      (.mapping tag nested)).run before = some result) :
    Collected (.mapping tag nested) (Value.ofYaml result.1) := by
  rw [Node.resolve.eq_def] at resolved
  cases own : Node.ownTag? tag with
  | none =>
    simp only [own] at resolved
    obtain ⟨entries, after, -, same⟩ := returned resolved
    exact same ▸ .map ..
  | some name =>
    simp only [own] at resolved
    obtain ⟨inner, after, collected, same⟩ := returned resolved
    obtain ⟨entries, -, -, rfl⟩ := returned collected
    exact same ▸ .map ..

end

/-! ## Aliases -/

/-- A content that is no alias. -/
def Unaliased (content : Content) : Prop := ∀ number, content ≠ .alias number

theorem scalar_unaliased (tag : Option String) (plain : Bool) (text : String) :
    Unaliased (.scalar tag plain text) := by
  rintro number ⟨⟩

theorem sequence_unaliased (tag : Option String) (items : List Content) :
    Unaliased (.sequence tag items) := by
  rintro number ⟨⟩

theorem mapping_unaliased (tag : Option String) (entries : List (Content × Content)) :
    Unaliased (.mapping tag entries) := by
  rintro number ⟨⟩

/-- Without anchors there is nothing that an alias could stand for. -/
theorem read_unaliased {prefixes : Prefixes} {fuel : Nat} {block indentless : Bool}
    {tokens rest : List Token} {content : Content} {after : Anchors}
    (read : Content.read? prefixes fuel block indentless Anchors.empty tokens =
      some (content, after, rest)) : Unaliased content := by
  cases fuel with
  | zero => cases read
  | succ fuel =>
    by_cases known : ∃ name others, tokens = .alias name :: others
    · obtain ⟨name, others, rfl⟩ := known
      cases read
    · rw [Content.read?.eq_3 _ _ _ _ _ _ fun name others same => known ⟨name, others, same⟩] at read
      dsimp only at read
      have notWritten {written : Bool} {held : Option String} {kept : Anchors} {body : List Token}
          (given : (if written then some (Content.scalar held true "", kept, body) else none) =
            some (content, after, rest)) : Unaliased content := by
        cases written with
        | false => cases given
        | true =>
          cases given
          exact scalar_unaliased _ _ _
      have collected {α : Type} {found : Option α} {whole : α → Content × Anchors × List Token}
          (other : ∀ inner, Unaliased (whole inner).1)
          (given : found.map whole = some (content, after, rest)) : Unaliased content := by
        obtain ⟨inner, -, same⟩ := Option.map_eq_some_iff.mp given
        have first : (whole inner).1 = content := congrArg Prod.fst same
        exact first ▸ other inner
      split at read
      · cases read
      · split at read
        · cases read
          exact scalar_unaliased _ _ _
        · exact collected (fun _ => sequence_unaliased _ _) read
        · exact collected (fun _ => mapping_unaliased _ _) read
        · split at read
          · exact collected (fun _ => sequence_unaliased _ _) read
          · exact notWritten read
        · split at read
          · exact collected (fun _ => sequence_unaliased _ _) read
          · exact notWritten read
        · split at read
          · exact collected (fun _ => mapping_unaliased _ _) read
          · exact notWritten read
        · cases read
        · exact notWritten read

/-- Behind the content of a document, only the marker of its end is taken away. -/
theorem content_kept {content : Content} {anchors : Anchors} {left rest : List Token}
    {document : Document}
    (closed : (match left with
      | .broken :: _ => none
      | .documentEnd :: rest => some (⟨content, anchors⟩, rest)
      | rest => some (⟨content, anchors⟩, rest)) = some (document, rest)) :
    document.content = content := by
  split at closed <;> cases closed <;> rfl

/-- The first document begins without anchors, with a marker or without one. -/
theorem document_unaliased {fuel : Nat} {tokens rest : List Token} {document : Document}
    (read : Document.read? fuel true tokens = some (document, rest)) :
    Unaliased document.content := by
  rw [Document.read?] at read
  split at read
  next =>
    obtain ⟨⟨content, anchors, left⟩, found, closed⟩ := Option.bind_eq_some_iff.mp read
    exact content_kept closed ▸ read_unaliased found
  next =>
    obtain ⟨⟨prefixes, marked⟩, directives, read⟩ := Option.bind_eq_some_iff.mp read
    dsimp only at read
    split at read
    next =>
      obtain ⟨⟨content, anchors, left⟩, found, closed⟩ := Option.bind_eq_some_iff.mp read
      rw [content_kept closed]
      rw [Document.readMarked?] at found
      split at found
      · cases found
        exact scalar_unaliased _ _ _
      · exact read_unaliased found
    next => cases read

theorem single_unaliased {text : List Char} {document : Document}
    (single : Document.readAll text = [some document]) : Unaliased document.content := by
  rw [Document.readAll, Document.readFrom] at single
  simp only [if_true] at single
  split at single
  · cases single
    exact scalar_unaliased _ _ _
  · split at single
    next => cases single
    next found rest read =>
      obtain ⟨same, -⟩ := List.cons_eq_cons.mp single
      cases same
      exact document_unaliased read

/-- Every word that is a single document with a value is a scalar or a collection. -/
theorem holds_or_collected {word : String} {node : Node}
    (stands : Node.ofText? word.toList = some node) :
    (∃ tag plain text, Holds word tag plain text) ∨ HoldsCollection word (Value.ofYaml node) := by
  obtain ⟨⟨content, anchors⟩, single, resolved⟩ := single_of_ofText stands
  obtain ⟨⟨found, after⟩, run, rfl⟩ := Option.map_eq_some_iff.mp resolved
  rcases content with number | ⟨tag, plain, text⟩ | ⟨tag, items⟩ | ⟨tag, entries⟩
  · exact absurd rfl (single_unaliased single number)
  · exact .inl ⟨tag, plain, text, anchors, single⟩
  · exact .inr ⟨_, found, single, resolved, rfl, resolve_sequence run⟩
  · exact .inr ⟨_, found, single, resolved, rfl, resolve_mapping run⟩

/-! ## Words -/

/-- The value is null, a truth value or a number. -/
inductive Basic : Value → Prop where
  | null : Basic .null
  | boolean (value : Bool) : Basic (.boolean value)
  | int (n : Int32) : Basic (.int n)
  | long (n : Int64) : Basic (.long n)
  | double (x : Numeric.Binary64) : Basic (.double x)

theorem basic_of_integer {n : Int} {value : Value} (integer : IntegerValue n value) :
    Basic value := by
  cases integer with
  | int => exact .int _
  | long => exact .long _
  | double => exact .double _

theorem Basic.uncollected {content : Content} {value : Value} (basic : Basic value) :
    ¬ Collected content value := by
  intro collected
  cases collected <;> cases basic

theorem Collected.not_string {content : Content} {text : String} :
    ¬ Collected content (.string text) := by
  rintro ⟨⟩

theorem Spells.basic {text : String} {value : Value} (spells : Spells text value) :
    Basic value := by
  cases spells with
  | null => exact .null
  | boolean => exact .boolean _
  | integer _ _ integer => exact basic_of_integer integer
  | float => exact .double _

/-- Every scalar is null, a truth value, a number or a text. -/
theorem Denotes.basic_or_string {text : String} {tag : Option String} {plain : Bool}
    {value : Value} (denotes : Denotes text tag plain value) :
    Basic value ∨ ∃ text, value = .string text := by
  cases denotes with
  | spelt _ spells => exact .inl spells.basic
  | null => exact .inl .null
  | boolean => exact .inl (.boolean _)
  | integer _ _ integer => exact .inl (basic_of_integer integer)
  | float => exact .inl (.double _)
  | words | quoted | named => exact .inr ⟨_, rfl⟩

section
variable {word : String}

theorem holds_line (line : PlainLine word.toList) : Holds word none true word := by
  have single := readAll_line line
  rw [String.ofList_toList] at single
  exact ⟨Anchors.empty, single⟩

/-- A word that spells a value is a scalar as it stands, also if it is empty. -/
theorem holds_of_spells {value : Value} (spells : Spells word value) :
    Holds word none true word := by
  by_cases empty : word = ""
  · exact empty ▸ ⟨Anchors.empty, rfl⟩
  · have meant : Scalar.ofPlain word ≠ .text := by
      rintro text
      rcases spells with plain | plain | ⟨plain, -, -⟩ | plain <;> cases plain.symm.trans text
    have nonempty : word.toList ≠ [] := fun none => empty (String.toList_eq_nil_iff.mp none)
    exact holds_line (plainLine_of_spells meant nonempty)

/-- A plain scalar that spells no value is the word itself. -/
theorem unspelt_line (line : PlainLine word.toList) (unspelt : ∀ value, ¬ Spells word value) :
    parseArgument true word = .string word := by
  obtain ⟨has, lacks⟩ := holds_value (holds_line line)
  by_cases denotes : ∃ value, Denotes word none true value
  · obtain ⟨value, denotes⟩ := denotes
    rw [has value denotes]
    cases denotes with
    | spelt _ spells => exact absurd spells (unspelt value)
    | words => rfl
  · exact lacks fun value denoted => denotes ⟨value, denoted⟩

theorem unread_word (unread : ∀ document, Document.readAll word.toList ≠ [some document]) :
    parseArgument true word = .string word := by
  rw [parseArgument_typed]
  cases stands : Node.ofText? word.toList with
  | none => rfl
  | some node =>
    obtain ⟨document, single, -⟩ := single_of_ofText stands
    exact absurd single (unread document)

/-- A word that is a collection has the value of it. -/
theorem collection_value {value : Value} (holds : HoldsCollection word value) :
    parseArgument true word = value := by
  obtain ⟨document, node, single, resolved, rfl, -⟩ := holds
  rw [parseArgument_typed, ofText_single single, resolved]
  rfl

/-- A word is the value of the scalar or of the collection that it is, and else its text. -/
theorem parseArgument_cases (word : String) :
    (∃ tag plain text, Holds word tag plain text ∧
      Denotes text tag plain (parseArgument true word)) ∨
      HoldsCollection word (parseArgument true word) ∨ parseArgument true word = .string word := by
  cases stands : Node.ofText? word.toList with
  | none =>
    right; right
    rw [parseArgument_typed, stands]
    rfl
  | some node =>
    rcases holds_or_collected stands with ⟨tag, plain, text, holds⟩ | collection
    · obtain ⟨has, lacks⟩ := holds_value holds
      by_cases denotes : ∃ value, Denotes text tag plain value
      · obtain ⟨value, denotes⟩ := denotes
        exact .inl ⟨tag, plain, text, holds, has value denotes ▸ denotes⟩
      · exact .inr (.inr (lacks fun value denoted => denotes ⟨value, denoted⟩))
    · exact .inr (.inl (collection_value collection ▸ collection))

/-- No text, no list and no map is basic, so that a basic value comes from a scalar. -/
theorem holds_of_basic (basic : Basic (parseArgument true word)) : ∃ tag plain text,
    Holds word tag plain text ∧ Denotes text tag plain (parseArgument true word) := by
  rcases parseArgument_cases word with holds | ⟨_, _, _, _, _, collected⟩ | verbatim
  · exact holds
  · exact absurd collected basic.uncollected
  · rw [verbatim] at basic
    cases basic

/-- A list or a map comes from a collection. -/
theorem collection_of_collected {content : Content}
    (collected : Collected content (parseArgument true word)) :
    HoldsCollection word (parseArgument true word) := by
  rcases parseArgument_cases word with ⟨tag, plain, text, -, denotes⟩ | holds | verbatim
  · rcases denotes.basic_or_string with basic | ⟨text, same⟩
    · exact absurd collected basic.uncollected
    · rw [same] at collected
      exact absurd collected Collected.not_string
  · exact holds
  · rw [verbatim] at collected
    exact absurd collected Collected.not_string

/-- A word becomes null, a truth value, a number or its own text unless it is a collection, or a
scalar of another text. -/
theorem basic_or_verbatim_iff :
    (Basic (parseArgument true word) ∨ parseArgument true word = .string word) ↔
      (∀ value, ¬ HoldsCollection word value) ∧
      ∀ tag plain text value, Holds word tag plain text → Denotes text tag plain value →
        Basic value ∨ value = .string word := by
  constructor
  · intro claimed
    refine ⟨fun value holds => ?_, fun tag plain text value holds denotes => ?_⟩
    · rw [collection_value holds] at claimed
      obtain ⟨_, _, _, _, _, collected⟩ := holds
      rcases claimed with basic | rfl
      · exact basic.uncollected collected
      · exact collected.not_string
    · rwa [(holds_value holds).1 value denotes] at claimed
  · rintro ⟨uncollected, scalars⟩
    rcases parseArgument_cases word with ⟨tag, plain, text, holds, denotes⟩ | holds | verbatim
    · exact scalars tag plain text _ holds denotes
    · exact absurd holds (uncollected _)
    · exact .inr verbatim

end

/-- Without types every word is its text. With types a word is what it is as a single YAML document.
What spells null, a truth value or a number is that value, and every other plain scalar of one line,
like every word that is no single document, is its text. A word that is a scalar in another way, in
quotes, under a tag, or with blanks or a comment around it, has the value of this scalar; nothing
else becomes null, a truth value or a number. A word that is a collection becomes a list or a map,
and nothing else does. So a word is null, a truth value, a number or its own text, unless it is a
collection, or a scalar with another text for its value. -/
theorem typed_words_are_scalars (word : String) :
    parseArgument false word = .string word ∧
    (∀ value, Spells word value → parseArgument true word = value) ∧
    (PlainLine word.toList → (∀ value, ¬ Spells word value) →
      parseArgument true word = .string word) ∧
    ((∀ document, Document.readAll word.toList ≠ [some document]) →
      parseArgument true word = .string word) ∧
    (∀ tag plain text, Holds word tag plain text →
      (∀ value, Denotes text tag plain value → parseArgument true word = value) ∧
      ((∀ value, ¬ Denotes text tag plain value) → parseArgument true word = .string word)) ∧
    (Basic (parseArgument true word) → ∃ tag plain text,
      Holds word tag plain text ∧ Denotes text tag plain (parseArgument true word)) ∧
    (∀ value, HoldsCollection word value → parseArgument true word = value) ∧
    (∀ content, Collected content (parseArgument true word) →
      HoldsCollection word (parseArgument true word)) ∧
    ((∀ tag plain text, ¬ Holds word tag plain text) → (∀ value, ¬ HoldsCollection word value) →
      parseArgument true word = .string word) ∧
    ((Basic (parseArgument true word) ∨ parseArgument true word = .string word) ↔
      (∀ value, ¬ HoldsCollection word value) ∧
      ∀ tag plain text value, Holds word tag plain text → Denotes text tag plain value →
        Basic value ∨ value = .string word) := by
  refine ⟨rfl, fun value spells => ?_, unspelt_line, unread_word,
    fun _ _ _ holds => holds_value holds, holds_of_basic, fun _ holds => collection_value holds,
    fun _ => collection_of_collected, fun scalars collections => ?_, basic_or_verbatim_iff⟩
  · exact (holds_value (holds_of_spells spells)).1 value (.spelt nofun spells)
  · rcases parseArgument_cases word with ⟨tag, plain, text, holds, -⟩ | holds | verbatim
    · exact absurd holds (scalars tag plain text)
    · exact absurd holds (collections _)
    · exact verbatim

/-- Two words with a blank between them, an octal number, and a sequence in brackets. -/
theorem typed_words_are_scalars_greeting :
    parseArgument true "hello world" = .string "hello world" ∧
      parseArgument true "0o17" = .int 15 ∧
      HoldsCollection "[1, 2]" (.list [.int 1, .int 2]) := by
  have isWord {word : List Char} (nonempty : word ≠ []) (spelt : Spelt word)
      (uncoloned : word.getLast? ≠ some ':') : IsWord word :=
    ⟨nonempty, fun c member => ⟨(spelt c member).allowed, (spelt c member).solid⟩, uncoloned⟩
  have hello : IsWord ['h', 'e', 'l', 'l', 'o'] := isWord nofun (by decide) (by decide)
  have world : IsWord ['w', 'o', 'r', 'l', 'd'] := isWord nofun (by decide) (by decide)
  have blank : ∀ c ∈ [' '], isSpaceOrTab c = true := List.forall_mem_singleton.mpr rfl
  have words : Words "hello world".toList :=
    .more hello (List.cons_ne_nil ' ' []) blank (by decide) (.last world)
  have line : PlainLine "hello world".toList :=
    ⟨words, .char rfl (by decide), by rintro ⟨c, rest, rfl | rfl, ⟨⟩, -⟩⟩
  have unspelt (value : Value) : ¬ Spells "hello world" value := by
    have text : Scalar.ofPlain "hello world" = .text := rfl
    rintro (plain | plain | ⟨plain, -, -⟩ | plain) <;> cases plain.symm.trans text
  have bracketed : parseArgument true "[1, 2]" = .list [.int 1, .int 2] := rfl
  obtain ⟨-, -, -, -, -, -, -, collections, -, -⟩ := typed_words_are_scalars "[1, 2]"
  refine ⟨(typed_words_are_scalars "hello world").2.2.1 line unspelt,
    (typed_words_are_scalars "0o17").2.1 (.int 15) (.integer rfl rfl (.int 15 rfl)), ?_⟩
  exact bracketed ▸ collections (.sequence none []) (bracketed ▸ .list ..)

/-- A word in brackets is a list, so that not every word is a scalar or stays as it is. -/
theorem bracketed_word_is_list : parseArgument true "[1, 2]" = .list [.int 1, .int 2] ∧
    (¬ ∀ word items, parseArgument true word ≠ .list items) ∧
    ¬ ∀ word, Basic (parseArgument true word) ∨ parseArgument true word = .string word := by
  have read : parseArgument true "[1, 2]" = .list [.int 1, .int 2] := rfl
  refine ⟨read, fun claimed => claimed "[1, 2]" _ read, fun claimed => ?_⟩
  rcases claimed "[1, 2]" with basic | verbatim
  · rw [read] at basic
    cases basic
  · cases read.symm.trans verbatim

end ValuePath.TypedWords
