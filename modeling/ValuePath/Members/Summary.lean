import ValuePath.Members.TypeInfo
import ValuePath.Text.Quoted

/-!
A one-line summary of a member table.
-/
namespace ValuePath.TypeInfo

def nameList (names : List String) : String :=
  "[" ++ String.intercalate ", " (names.map Text.quoted) ++ "]"

/-- The names of the type, its supertypes, its fields and its methods, each
name once and in order of first registration. -/
def summary (info : TypeInfo) : String :=
  "TypeInfo \x7b name: " ++ Text.quoted info.name ++
    ", supertypes: " ++ nameList info.supertypes ++
    ", fields: " ++ nameList (Entries.keys info.fieldTable) ++
    ", methods: " ++ nameList (Entries.keys info.methodTable) ++ " \x7d"

end ValuePath.TypeInfo
