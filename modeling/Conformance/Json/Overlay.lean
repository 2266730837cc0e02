import Conformance.Json.Basic

namespace Conformance.Json

mutual

/-- Objects are merged member by member, and anything else that lies on top hides what is under it.
-/
def overlay (base : Json) (top : Json) : Json :=
  match top with
  | .obj ms =>
    match base with
    | .obj bs => .obj (overlayMembers bs ms)
    | _ => .obj ms
  | .null => .null
  | .bool b => .bool b
  | .int n => .int n
  | .float x => .float x
  | .str s => .str s
  | .arr es => .arr es

def overlayMembers (base : Dictionary Json) (members : List (String × Json)) : Dictionary Json :=
  match members with
  | [] => base
  | (k, v) :: ms => overlayMembers (base.insert k (overlay ((base.get? k).getD .null) v)) ms

end

end Conformance.Json
