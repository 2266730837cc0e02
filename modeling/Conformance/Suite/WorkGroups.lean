import Conformance.TestCase
import Conformance.Word

namespace Conformance.Suite.WorkGroups

def expectRefused (what : String) (acceptable : DeviceError → Bool) : LaunchEnd → Script Unit
  | .refused e =>
    if acceptable e then .note (what ++ ": rejected with '" ++ e.message ++ "'")
    else .fail (what ++ ": rejected with unexpected error '" ++ e.message ++ "'")
  | _ => .fail (what ++ ": launch succeeded, expected an error")

def refuse (env : TestEnv) (what : String) (r : NdRange) (acceptable : DeviceError → Bool) :
    Script Nat := do
  let l ← env.launch r
  expectRefused what acceptable l.ending
  return l.items.length

def isInvalidWorkGroup : DeviceError → Bool
  | .invalidWorkGroup _ _ => true
  | _ => false

def unevenRange (limit : Nat) : Except Overflow NdRange := do
  return ⟨← addWord (← mulWord limit 2) 1, 2⟩

def oversizedRange (limit : Nat) : Except Overflow NdRange := do
  let above ← addWord limit 1
  return ⟨← mulWord above 2, above⟩

def fullRange (limit : Nat) : Except Overflow NdRange := do
  return ⟨← mulWord limit 2, limit⟩

/-- With a limit of one, every size within the limit divides every range. -/
def refuseUneven (env : TestEnv) (limit : Nat) : Script Nat := do
  if 2 ≤ limit then
    refuse env "non-dividing local size" (← .ofWord (unevenRange limit)) isInvalidWorkGroup
  else
    .note "non-dividing local size: not checked, max work-group size is 1"
    return 0

def body (env : TestEnv) : Script Unit := do
  let limit := env.device.maxWorkGroupSize
  let empty ← refuse env "zero local size" ⟨64, 0⟩ (· == .invalidWorkGroup 64 0)
  let uneven ← refuseUneven env limit
  let oversized ← refuse env "oversized work-group" (← .ofWord (oversizedRange limit))
    (· == .workGroupTooLarge (limit + 1) limit)
  let rejected := empty + uneven + oversized
  let _ ← Script.checkEq rejected 0 "work-items executed by rejected launches"
  let full ← .ofWord (fullRange limit)
  let items ← env.launchItems full
  let _ ← Script.checkEq (rejected + items.length) full.globalSize
    "work-items executed at the work-group limit"
  return ()

def test : TestCase := ⟨⟨"work_group_errors", "src/suites/work_group_errors.rs"⟩, body⟩

end Conformance.Suite.WorkGroups
