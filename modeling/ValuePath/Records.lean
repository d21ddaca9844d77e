import ValuePath.Members.Objects

/-!
Objects that are described by data: stored fields, methods with simple bodies,
and items. The handles of a record work on every object with the same concrete
type behind it, whatever its named type is.
-/
namespace ValuePath

/-- What a method of a record does. -/
inductive MethodBody where
  /-- Gives always this value. -/
  | constant (value : Value)
  /-- Gives the stored value of the receiver, or null. -/
  | stored (name : String)
  | argument (index : Nat)
  | intArgument (index : Nat)
  | longArgument (index : Nat)
  | stringArgument (index : Nat)
  /-- Fails for this reason. -/
  | fail (reason : String)

/-- An object described by data. -/
structure Record where
  id : String
  typeName : String
  supertypes : List String
  /-- Fields in the order of their registration. A repeated name keeps its
  first place and stores its last value. -/
  fields : List (String × Value)
  methods : List (String × List TypeRef × MethodBody)
  items : Option (List Value)
  concreteType : String

namespace Record

/-- The stored value of a field, null if there is none. -/
def stored (record : Record) (name : String) : Value :=
  (Entries.find? name (Entries.ofPairs record.fields)).getD .null

/-- Runs a method body on its receiver. -/
def run (record : Record) (args : List Value) : MethodBody → Except InvokeError Value
  | .constant value => .ok value
  | .stored name => .ok (record.stored name)
  | .argument index => Arguments.get args index
  | .intArgument index => (Arguments.int args index).map .int
  | .longArgument index => (Arguments.long args index).map .long
  | .stringArgument index => (Arguments.string args index).map .string
  | .fail reason => .error (.failed reason)

/-- The record behind a value, if its concrete type is the given one. -/
def receiver (records : List Record) (concreteType : String) (value : Value) : Option Record :=
  (value.asObject?.bind (records[·]?)).filter (·.concreteType == concreteType)

/-- What a record registers for its type. -/
def registrations (record : Record) : List (Registration Record) :=
  record.supertypes.map .supertype ++
    record.fields.map (fun (name, _) => .field name fun this => this.stored name) ++
    record.methods.map fun (name, params, body) =>
      .method name params fun this args => this.run args body

/-- A record as an object among others. -/
def view (records : List Record) (record : Record) : ObjectView where
  info := TypeInfo.build record.typeName (receiver records record.concreteType) record.registrations
  items := record.items
  text := record.typeName ++ "#" ++ record.id
  concreteType := record.concreteType

/-- The objects that records describe, each one known by its position. -/
def objects (records : List Record) : Objects := fun id =>
  match records[id]? with
  | some record => record.view records
  | none => Objects.empty id

end Record
end ValuePath
