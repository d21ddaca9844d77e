import ValuePath.Members.Text
import ValuePath.Members.Sequences
import ValuePath.Members.Maps
import ValuePath.Members.Scalars

/-!
The member table of a value.
-/
namespace ValuePath.Value

variable (objects : Objects)

/-- The member table of the runtime type; null has none. -/
def typeInfo? : Value → Option TypeInfo
  | null => none
  | string _ => some StringMembers.table
  | array _ => some ArrayMembers.table
  | list _ => some (ListMembers.table objects)
  | map _ => some MapMembers.table
  | object id => some (objects id).info
  | scalar => scalar.kind?.map (ScalarMembers.table objects)

end ValuePath.Value
