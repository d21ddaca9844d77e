import ValuePath.Program.Run
import ValuePath.Proofs.BuiltinCalls
import ValuePath.Proofs.Reloading

/-! Whatever the program prints can be written. Documents and arguments hold no
references to objects, the members of built-in types give none, and so no lookup in a
document comes to one. -/
namespace ValuePath.PrintedResults
open CallSteps OverloadDispatch

/-- The value can be written where there are no objects. -/
def Printable (value : Value) : Prop := (Objects.empty.tree 0 value).isSome

/-! ## Values in values -/

theorem treesWith_isSome (objectTree : ObjectId → Option Tree) (items : List Value) :
    (Value.treesWith objectTree items).isSome ↔
      ∀ item ∈ items, (item.treeWith objectTree).isSome := by
  induction items with
  | nil => simp [Value.treesWith]
  | cons item rest ih =>
    rw [List.forall_mem_cons, ← ih, Value.treesWith]
    cases item.treeWith objectTree <;> cases Value.treesWith objectTree rest <;> simp

theorem entryTreesWith_isSome (objectTree : ObjectId → Option Tree)
    (entries : List (String × Value)) : (Value.entryTreesWith objectTree entries).isSome ↔
      ∀ entry ∈ entries, (entry.2.treeWith objectTree).isSome := by
  induction entries with
  | nil => simp [Value.entryTreesWith]
  | cons entry rest ih =>
    obtain ⟨key, value⟩ := entry
    rw [List.forall_mem_cons, ← ih, Value.entryTreesWith]
    cases value.treeWith objectTree <;> cases Value.entryTreesWith objectTree rest <;> simp

theorem printable_list {items : List Value} :
    Printable (.list items) ↔ ∀ item ∈ items, Printable item := by
  rw [Printable, Objects.tree, Value.treeWith, Option.isSome_map]
  exact treesWith_isSome _ items

theorem printable_array {items : List Value} :
    Printable (.array items) ↔ ∀ item ∈ items, Printable item := by
  rw [Printable, Objects.tree, Value.treeWith, Option.isSome_map]
  exact treesWith_isSome _ items

theorem printable_map {entries : List (String × Value)} :
    Printable (.map entries) ↔ ∀ entry ∈ entries, Printable entry.2 := by
  rw [Printable, Objects.tree, Value.treeWith, Option.isSome_map]
  exact entryTreesWith_isSome _ entries

/-! ## Results of members -/

/-- If there is a value, then it can be written. -/
def Printed (result : Except ε Value) : Prop := ∀ value, result = .ok value → Printable value

theorem printed_ok {value : Value} (printable : Printable value) :
    Printed (.ok value : Except ε Value) := by
  rintro _ ⟨⟩
  exact printable

theorem printed_error (error : ε) : Printed (.error error) := nofun

/-- What is read before does not matter. -/
theorem printed_bind {first : Except ε α} {next : α → Except ε Value}
    (later : ∀ a, Printed (next a)) : Printed (first >>= next) := by
  cases first with
  | error error => exact printed_error error
  | ok a => exact later a

theorem printed_mapError {result : Except ε Value} (change : ε → ε') (printed : Printed result) :
    Printed (result.mapError change) := by
  cases result with
  | error error => exact printed_error (change error)
  | ok value => exact printed_ok (printed value rfl)

/-- The body of a method gives values that can be written, whatever the arguments. -/
def Gives (this : τ) : Registration τ → Prop
  | .method _ _ body => ∀ args, Printed (body this args)
  | .supertype _ | .field _ _ => True

theorem intOfCount_printed (count : Nat) : Printed (intOfCount count) := by
  unfold intOfCount
  split
  · exact printed_ok rfl
  · exact printed_error _

theorem string_members_give (text : String) :
    ∀ registration ∈ StringMembers.registrations, Gives text registration := by
  have range (first last : Int32) : Printed (StringMembers.charRange text first last) := by
    unfold StringMembers.charRange
    dsimp only
    split
    · exact printed_error _
    · exact printed_ok rfl
  have char (index : Int32) : Printed (StringMembers.charAt text index) := by
    unfold StringMembers.charAt
    split
    · exact printed_ok rfl
    · exact printed_error _
  have position (needle : List Char) : Printed (StringMembers.indexOf text.toList needle) := by
    unfold StringMembers.indexOf
    split
    · exact intOfCount_printed _
    · exact printed_ok rfl
  have pieces (separator : List Char) :
      Printable (.array ((StringMembers.split text.toList separator).map StringMembers.ofChars)) := by
    refine printable_array.mpr fun item member => ?_
    obtain ⟨piece, -, rfl⟩ := List.mem_map.mp member
    rfl
  simp only [StringMembers.registrations, List.forall_mem_cons, List.not_mem_nil, false_implies,
    implies_true, and_true]
  refine ⟨?length, ?isEmpty, ?upper, ?lower, ?trim, ?behind, ?between, ?charAt, ?indexOf,
    ?contains, ?startsWith, ?endsWith, ?concat, ?replace, ?split, ?equals, ?toString⟩ <;> intro args
  case length => exact intOfCount_printed _
  case isEmpty | upper | lower | trim | toString => exact printed_ok rfl
  case behind => exact printed_bind fun _ => range _ _
  case between => exact printed_bind fun _ => printed_bind fun _ => range _ _
  case charAt => exact printed_bind fun _ => char _
  case indexOf => exact printed_bind fun _ => position _
  case contains | startsWith | endsWith | concat | equals =>
    exact printed_bind fun _ => printed_ok rfl
  case replace => exact printed_bind fun _ => printed_bind fun _ => printed_ok rfl
  case split => exact printed_bind fun _ => printed_ok (pieces _)

theorem list_members_give {items : List Value} (printable : ∀ item ∈ items, Printable item) :
    ∀ registration ∈ ListMembers.registrations Objects.empty, Gives items registration := by
  have element (index : Int32) : Printed (ListMembers.item items index) := by
    unfold ListMembers.item
    split
    · rename_i value found
      split at found
      · cases found
      · exact printed_ok (printable value (List.mem_of_getElem? found))
    · exact printed_error _
  have position (needle : Value) : Printed (ListMembers.indexOf items needle) := by
    unfold ListMembers.indexOf
    split
    · exact intOfCount_printed _
    · exact printed_ok rfl
  simp only [ListMembers.registrations, List.forall_mem_cons, List.not_mem_nil, false_implies,
    implies_true, and_true]
  refine ⟨?size, ?isEmpty, ?get, ?contains, ?indexOf, ?toString⟩ <;> intro args
  case size => exact intOfCount_printed _
  case isEmpty | toString => exact printed_ok rfl
  case get => exact printed_bind fun _ => element _
  case contains => exact printed_bind fun _ => printed_ok rfl
  case indexOf => exact printed_bind fun _ => position _

theorem map_members_give {entries : List (String × Value)}
    (printable : ∀ entry ∈ entries, Printable entry.2) :
    ∀ registration ∈ MapMembers.registrations, Gives entries registration := by
  have under (key : Value) : Printable ((MapMembers.underKey? entries key).getD .null) := by
    cases found : MapMembers.underKey? entries key with
    | none => rfl
    | some value =>
      obtain ⟨name, -, stands⟩ := Option.bind_eq_some_iff.mp found
      exact printable (name, value) (DistinctKeys.mem_of_find stands)
  have keys : Printable (.list ((Entries.keys entries).map .string)) := by
    refine printable_list.mpr fun item member => ?_
    obtain ⟨key, -, rfl⟩ := List.mem_map.mp member
    rfl
  have values : Printable (.list (Entries.values entries)) := by
    refine printable_list.mpr fun item member => ?_
    obtain ⟨entry, held, rfl⟩ := List.mem_map.mp member
    exact printable entry held
  simp only [MapMembers.registrations, List.forall_mem_cons, List.not_mem_nil, false_implies,
    implies_true, and_true]
  refine ⟨?size, ?isEmpty, ?get, ?containsKey, ?keySet, ?values⟩ <;> intro args
  case size => exact intOfCount_printed _
  case isEmpty => exact printed_ok rfl
  case get => exact printed_bind fun _ => printed_ok (under _)
  case containsKey => exact printed_bind fun _ => printed_ok rfl
  case keySet => exact printed_ok keys
  case values => exact printed_ok values

theorem scalar_members_give (value : Value) (kind : Kind) :
    ∀ registration ∈ ScalarMembers.sharedRegistrations Objects.empty ++
      ScalarMembers.kindRegistrations kind, Gives value registration := by
  have converted {α : Type} (expected : String) (read : Option α) (wrap : α → Value)
      (printable : ∀ a, Printable (wrap a)) :
      Printed (ScalarMembers.required expected (read.map wrap)) := by
    cases read with
    | none => exact printed_error _
    | some a => exact printed_ok (printable a)
  have numeric : ∀ registration ∈ ScalarMembers.numericRegistrations, Gives value registration := by
    simp only [ScalarMembers.numericRegistrations, List.forall_mem_cons, List.not_mem_nil,
      false_implies, implies_true, and_true]
    refine ⟨?int, ?long, ?double⟩ <;> intro args
    case int | long | double => exact converted _ _ _ fun _ => rfl
  refine List.forall_mem_append.mpr ⟨?_, ?_⟩
  · simp only [ScalarMembers.sharedRegistrations, List.forall_mem_cons, List.not_mem_nil,
      false_implies, implies_true, and_true]
    refine ⟨?toString, ?equals⟩ <;> intro args
    case toString => exact printed_ok rfl
    case equals => exact printed_bind fun _ => printed_ok rfl
  · cases kind with
    | boolean | char => exact List.forall_mem_singleton.mpr fun _ => converted _ _ _ fun _ => rfl
    | byte | short | int | long | float | double => exact numeric

/-- A handle of a table that is invoked on a receiver of the table gives what the body
gives. -/
theorem invoke_printed {typeName name : String} {receiver : Value → Option τ}
    {log : List (Registration τ)} {arity : Nat} {current : Value} {this : τ} {method : Method}
    (give : ∀ registration ∈ log, Gives this registration)
    (seen : receiver current = some this)
    (member : method ∈ (TypeInfo.build typeName receiver log).methods name arity)
    (args : List Value) : Printed (method.invoke current args) := by
  obtain ⟨name, params, body, registered, rfl⟩ := mem_declared (mem_methods_build member).1
  have result : (handle typeName receiver name params body).invoke current args =
      body this args := by simp only [handle, seen]
  rw [result]
  exact give _ registered args

theorem method_printed {current : Value} (printable : Printable current) {info : TypeInfo}
    (typed : current.typeInfo? Objects.empty = some info) {name : String} {arity : Nat}
    {method : Method} (member : method ∈ info.methods name arity) (args : List Value) :
    Printed (method.invoke current args) := by
  cases current with
  | null => cases typed
  | object id => cases printable
  | string text =>
    cases typed
    exact invoke_printed (string_members_give text) rfl member args
  | array items =>
    cases typed
    cases member
  | list items =>
    cases typed
    exact invoke_printed (list_members_give (printable_list.mp printable)) rfl member args
  | map entries =>
    cases typed
    exact invoke_printed (map_members_give (printable_map.mp printable)) rfl member args
  | boolean _ | byte _ | char _ | short _ | int _ | long _ | float _ | double _ =>
    cases typed
    exact invoke_printed (scalar_members_give _ _) rfl member args

/-! ## Walks -/

/-- Where there are no objects, only maps have fields. -/
theorem no_fields {current : Value} {info : TypeInfo}
    (typed : current.typeInfo? Objects.empty = some info) (name : String) :
    info.field? name = none := by
  cases current with
  | null => cases typed
  | _ =>
    cases typed
    rfl

section Walks
variable (args : List Value) (threshold : Nat)

theorem field_printed {current : Value} (printable : Printable current) (name : String) :
    Printed ((⟨Objects.empty, args, threshold⟩ : Evaluator).readField current name) := by
  unfold Evaluator.readField
  split
  · split
    · rename_i value found
      exact printed_ok (printable_map.mp printable _ (DistinctKeys.mem_of_find found))
    · exact printed_error _
  · split
    · exact printed_error _
    · rename_i info typed
      rw [no_fields typed]
      exact printed_error _

theorem element_printed {current : Value} (printable : Printable current)
    (position : Option Int64) :
    Printed ((⟨Objects.empty, args, threshold⟩ : Evaluator).readIndex current position) := by
  cases position with
  | none => exact printed_error _
  | some position =>
    simp only [Evaluator.readIndex]
    split
    · exact printed_error _
    · cases current with
      | array items =>
        cases found : items[position.toInt.toNat]? with
        | none =>
          simp only [found]
          exact printed_error _
        | some value =>
          simp only [found]
          exact printed_ok (printable_array.mp printable value (List.mem_of_getElem? found))
      | list items =>
        cases found : items[position.toInt.toNat]? with
        | none =>
          simp only [found]
          exact printed_error _
        | some value =>
          simp only [found]
          exact printed_ok (printable_list.mp printable value (List.mem_of_getElem? found))
      | object id => cases printable
      | _ => exact printed_error _

theorem call_printed {current : Value} (printable : Printable current) (name : String)
    (slots : List UInt64) : Printed
      ((⟨Objects.empty, args, threshold⟩ : Evaluator).step current (.method name slots)) := by
  obtain ⟨result, called⟩ := callResult_exists ⟨Objects.empty, args, threshold⟩ current name slots
  rw [step_of_callResult called]
  cases called with
  | outOfRange | onNull | notFound => exact printed_error _
  | @invoked values info method chosen =>
    obtain ⟨before, after, split, -⟩ := chosen.earliest
    have member : method ∈ info.methods name slots.length := by
      rw [split]
      exact List.mem_append_right before List.mem_cons_self
    exact printed_mapError _ (method_printed printable chosen.typed member values)

theorem step_printed {current : Value} (printable : Printable current) (segment : Segment) :
    Printed ((⟨Objects.empty, args, threshold⟩ : Evaluator).step current segment) := by
  cases segment with
  | field name => exact field_printed args threshold printable name
  | method name slots => exact call_printed args threshold printable name slots
  | index position => exact element_printed args threshold printable position

/-- No lookup leads from a value that can be written to one that cannot. -/
theorem walk_printed {root : Value} (printable : Printable root) (path : Path) :
    Printed ((⟨Objects.empty, args, threshold⟩ : Evaluator).tryEvaluate root path) := by
  obtain ⟨segments⟩ := path
  induction segments generalizing root with
  | nil => exact printed_ok printable
  | cons segment rest ih =>
    rw [Evaluator.tryEvaluate, List.foldlM_cons]
    cases stepped : (⟨Objects.empty, args, threshold⟩ : Evaluator).step root segment with
    | error error => exact printed_error error
    | ok value => exact ih (step_printed args threshold printable segment value stepped)

end Walks

/-! ## Documents and arguments -/

theorem printable_of_settled {value : Value} (settled : NormalValues.Settled value) :
    Printable value := by
  obtain ⟨tree, written, -⟩ := NormalValues.written_of_settled Objects.empty 0 settled
  exact Option.isSome_of_eq_some written

theorem printable_argument (typed : Bool) (word : String) :
    Printable (Program.parseArgument typed word) := by
  unfold Program.parseArgument
  split
  · split
    · exact printable_of_settled (Reloading.settled_ofYaml _)
    · rfl
  · rfl

theorem printable_document {surroundings : Program.Surroundings} {file : Option String}
    {document : Value} (loads : Program.loadDocument surroundings file = .ok document) :
    Printable document := by
  refine printable_of_settled (Reloading.settled_loaded ?_)
  unfold Program.loadDocument at loads
  split at loads
  · exact .file _ _ loads
  · split at loads
    · exact .input _ loads
    · cases loads

end ValuePath.PrintedResults
