import Conformance.TestCase
import Conformance.Word

namespace Conformance.Suite

def defaultGlobalSize : Nat := 1024

def defaultLocalSize : Nat := 64

def divUp (count size : Nat) : Nat := (count + size - 1) / size

def launchRange (env : TestEnv) : Script NdRange := do
  let wantedLocal ← env.paramOr "local_size" defaultLocalSize
  let localSize := min (max wantedLocal 1) (max env.device.maxWorkGroupSize 1)
  let wantedGlobal ← env.paramOr "global_size" defaultGlobalSize
  let globalSize ← .ofWord (mulWord (divUp (max wantedGlobal localSize) localSize) localSize)
  return ⟨globalSize, localSize⟩

def roundUp (bytes alignment : Nat) : Nat := divUp bytes alignment * alignment

/-- The size of a slot, which has a value behind a header that starts with four aligned bytes. -/
def slotBytes (header : Nat) (t : Coverage.DataType) : Nat :=
  roundUp (roundUp header t.alignment + t.bytes) (max 4 t.alignment)

/-- No list takes as many bytes as this, two to the power of 63. -/
def memoryLimit : Nat := 9223372036854775808

def reserve (slots bytes : Nat) : Script Unit :=
  if memoryLimit ≤ slots * bytes then .panic "capacity overflow" else .done ()

def outOfBounds (slots index : Nat) : String :=
  "index out of bounds: the len is " ++ shown slots ++ " but the index is " ++ shown index

def notChecked (label : String) (lacking : Capability) : String :=
  label ++ ": not checked, device lacks " ++ lacking.name

def lacking? (device : Device) (required : Option Capability) : Option Capability :=
  required.filter fun c ↦ !device.has c

end Conformance.Suite
