import Conformance.Dictionary

namespace Conformance

/-- The members of an object stand in the order in which they are written, so that a reader can
still see a name that is written twice. Objects that are built rather than read have them in
increasing order of the names. -/
inductive Json
  | null
  | bool (b : Bool)
  | int (n : Int)
  | float (x : Float)
  | str (s : String)
  | arr (elements : List Json)
  | obj (members : List (String × Json))
  deriving Inhabited

namespace Json

def optional {α : Type} (f : α → Json) : Option α → Json
  | none => .null
  | some a => f a

def nat (n : Nat) : Json := .int n

def member? (k : String) : Json → Option Json
  | .obj members => members.lookup k
  | _ => none

def asString? : Json → Option String
  | .str s => some s
  | _ => none

def asNat? (limit : Nat) : Json → Option Nat
  | .int (.ofNat n) => if n < limit then some n else none
  | _ => none

end Json

end Conformance
