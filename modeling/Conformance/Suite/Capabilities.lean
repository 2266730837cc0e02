import Conformance.Coverage.TypePack
import Conformance.TestCase

namespace Conformance.Suite.Capabilities

def checkDemand (label : String) (has : Bool) (answer : Except DeviceError Unit) : Script Unit :=
  match has, answer with
  | true, .ok _ => .done ()
  | true, .error e => .fail (label ++ ": advertised but require() failed: " ++ e.message)
  | false, .error (.unsupported _) => .done ()
  | false, .ok _ => .fail (label ++ ": not advertised but require() succeeded")
  | false, .error e =>
    .fail (label ++ ": require() returned '" ++ e.message ++ "', expected unsupported")

def checkCapability (device : Device) (c : Capability) (label : String) : Script Unit := do
  let has := device.has c
  .note (label ++ ": " ++ if has then "supported" else "unsupported")
  checkDemand label has (device.require c)
  if c = .subGroups then
    let _ ← Script.check (has == device.subGroupSize.isSome) (label ++ ": has() is " ++ shown has ++
      " but sub-group size is " ++ shown device.subGroupSize)
    return ()

def body (env : TestEnv) : Script Unit := do
  (Coverage.labelled Capability.all).forM fun (c, label) ↦ checkCapability env.device c label
  let _ ← Script.check (0 < env.device.maxWorkGroupSize) "max work-group size is zero"
  return ()

def test : TestCase := ⟨⟨"device_capabilities", "src/suites/device_capabilities.rs"⟩, body⟩

end Conformance.Suite.Capabilities
