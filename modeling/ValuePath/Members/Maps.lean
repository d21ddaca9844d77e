import ValuePath.Members.Text

/-!
The members of maps. Keys are strings, so a key of another type is absent.
-/
namespace ValuePath.MapMembers

open ValuePath

/-- The value under a key given as a value. -/
def underKey? (entries : List (String × Value)) (key : Value) : Option Value :=
  key.asString?.bind (Entries.find? · entries)

open Registration in
def registrations : List (Registration (List (String × Value))) :=
  [ method "size" [] fun entries _ => intOfCount entries.length
  , method "isEmpty" [] fun entries _ => .ok (.boolean entries.isEmpty)
  , method "get" [.object] fun entries args => do
      return (underKey? entries (← Arguments.get args 0)).getD .null
  , method "containsKey" [.object] fun entries args => do
      return .boolean (underKey? entries (← Arguments.get args 0)).isSome
  , method "keySet" [] fun entries _ => .ok (.list ((Entries.keys entries).map .string))
  , method "values" [] fun entries _ => .ok (.list (Entries.values entries)) ]

/-- The member table of maps. -/
def table : TypeInfo := TypeInfo.build "Map" Value.asEntries? registrations

end ValuePath.MapMembers
