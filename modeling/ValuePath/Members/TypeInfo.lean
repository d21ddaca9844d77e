import ValuePath.Members.Arguments

/-!
Member tables. A table is built from a log of registrations: fields are kept
in order of first registration with the getter registered last, and methods
are kept by name and number of parameters, the overloads of one bucket in
order of registration.
-/
namespace ValuePath

/-- A readable field. Reading gives nothing if the receiver is not of the type
that the field was registered for. -/
structure Field where
  name : String
  read : Value → Option Value

/-- A method with its declared parameter types. -/
structure Method where
  name : String
  params : List TypeRef
  invoke : Value → List Value → Except InvokeError Value

/-- The member table of one type. -/
structure TypeInfo where
  name : String
  supertypes : List String
  fieldTable : List (String × Field)
  methodTable : List (String × List (Nat × List Method))

/-- One step in the building of a member table, for a type whose receivers
are seen as a `τ`. -/
inductive Registration (τ : Type) where
  | supertype (name : String)
  | field (name : String) (read : τ → Value)
  | method (name : String) (params : List TypeRef)
      (body : τ → List Value → Except InvokeError Value)

namespace TypeInfo

/-- The table without members. -/
def empty (name : String) : TypeInfo := ⟨name, [], [], []⟩

/-- The readable fields in order of first registration. -/
def fields (info : TypeInfo) : List Field := Entries.values info.fieldTable

def field? (info : TypeInfo) (name : String) : Option Field := Entries.find? name info.fieldTable

/-- The overloads of a name that take exactly this many arguments. -/
def methods (info : TypeInfo) (name : String) (arity : Nat) : List Method :=
  ((Entries.find? name info.methodTable).bind (Entries.find? arity)).getD []

/-- Whether this is the named type or declares it as a supertype. -/
def isA (info : TypeInfo) (name : String) : Bool :=
  info.name == name || info.supertypes.contains name

variable {τ : Type}

/-- Adds one registration. Members reach their receiver through `receiver`. -/
def register (receiver : Value → Option τ) (info : TypeInfo) : Registration τ → TypeInfo
  | .supertype name => { info with supertypes := info.supertypes ++ [name] }
  | .field name read =>
    let handle : Field := ⟨name, fun value => (receiver value).map read⟩
    { info with fieldTable := Entries.insert name handle info.fieldTable }
  | .method name params body =>
    let handle : Method := ⟨name, params, fun value args =>
      match receiver value with
      | some this => body this args
      | none => .error (.receiver info.name)⟩
    { info with
      methodTable :=
        Entries.update name [] (Entries.update params.length [] (· ++ [handle])) info.methodTable }

/-- The table that results from a log of registrations. -/
def build (name : String) (receiver : Value → Option τ) (log : List (Registration τ)) : TypeInfo :=
  log.foldl (register receiver) (empty name)

end TypeInfo
end ValuePath
