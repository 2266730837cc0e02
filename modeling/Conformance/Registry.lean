import Conformance.TestCase
import Std.Data.HashMap

namespace Conformance

structure Registry where
  entries : Array TestCase
  index : Std.HashMap String Nat

namespace Registry

def empty : Registry := ⟨#[], ∅⟩

instance : Inhabited Registry := ⟨empty⟩

def size (r : Registry) : Nat := r.entries.size

def isEmpty (r : Registry) : Bool := r.entries.isEmpty

def find? (r : Registry) (name : String) : Option TestCase := do
  r.entries[← r.index[name]?]?

def register (r : Registry) (t : TestCase) : Except DuplicateTest Registry :=
  match r.find? t.name with
  | some earlier => .error ⟨t.name, earlier.descriptor.source, t.descriptor.source⟩
  | none => .ok ⟨r.entries.push t, r.index.insert t.name r.entries.size⟩

def enter (t : TestCase) : ExceptT DuplicateTest (StateM Registry) Unit := do
  let r ← get
  match r.find? t.name with
  | some earlier => throw ⟨t.name, earlier.descriptor.source, t.descriptor.source⟩
  | none =>
    modify fun r ↦ { r with index := r.index.insert t.name r.entries.size }
    modify fun r ↦ { r with entries := r.entries.push t }

def ofList (tests : List TestCase) : Except DuplicateTest Registry :=
  tests.foldlM register empty

/-- The registry of tests that were announced in no particular order, sorted by their names. -/
def ofAnnounced (tests : List TestCase) : Except DuplicateTest Registry :=
  ofList (tests.mergeSort fun a b ↦ a.name ≤ b.name)

end Registry

end Conformance
