import Conformance.Duration
import Conformance.Shown

namespace Conformance

inductive Capability
  | fp64
  | atomic64
  | subGroups
  deriving DecidableEq, Repr, Inhabited

namespace Capability

def all : List Capability := [fp64, atomic64, subGroups]

def name : Capability → String
  | fp64 => "fp64"
  | atomic64 => "atomic64"
  | subGroups => "sub-groups"

def ofName? : String → Option Capability
  | "fp64" => some fp64
  | "atomic64" => some atomic64
  | "sub-groups" => some subGroups
  | _ => none

instance : Shown Capability :=
  ⟨fun | fp64 => "Fp64" | atomic64 => "Atomic64" | subGroups => "SubGroups"⟩

end Capability

inductive DeviceError
  | invalidWorkGroup (globalSize localSize : Nat)
  | workGroupTooLarge (localSize limit : Nat)
  | unsupported (capability : Capability)
  | unavailable (reason : String)
  deriving DecidableEq, Repr

namespace DeviceError

def message : DeviceError → String
  | invalidWorkGroup globalSize localSize =>
    "invalid work-group size " ++ shown localSize ++ " for global range " ++ shown globalSize
  | workGroupTooLarge localSize limit =>
    "work-group size " ++ shown localSize ++ " exceeds device maximum " ++ shown limit
  | unsupported capability => "capability " ++ capability.name ++ " is not supported"
  | unavailable reason => "device unavailable: " ++ reason

end DeviceError

structure NdRange where
  globalSize : Nat
  localSize : Nat
  deriving DecidableEq, Repr, Inhabited

def NdRange.groups (r : NdRange) : Option Nat :=
  if r.localSize = 0 ∨ r.globalSize % r.localSize ≠ 0 then none
  else some (r.globalSize / r.localSize)

structure WorkItem where
  globalId : Nat
  localId : Nat
  groupId : Nat
  deriving DecidableEq, Repr, Inhabited

inductive LaunchEnd
  | completed
  | refused (error : DeviceError)
  | crashed (message : String)
  deriving DecidableEq, Repr

structure Launch where
  items : List WorkItem
  ending : LaunchEnd
  deriving DecidableEq, Repr

/-- What a device makes of a launch may depend on the launches before it. Whatever else goes on
beside them, such as launches of threads that were given up, is in the function. -/
structure Device where
  name : String
  available : Bool
  has : Capability → Bool
  maxWorkGroupSize : Nat
  subGroupSize : Option Nat
  launch : Array NdRange → NdRange → Launch
  launchTime : Array NdRange → NdRange → Duration := fun _ _ ↦ 0
  /-- How a launch ends when its kernel fails with a message. -/
  kernelFault : String → LaunchEnd := .crashed
  validate : Except DeviceError Unit :=
    if available then .ok () else .error (.unavailable (name ++ " is not available on this system"))
  require : Capability → Except DeviceError Unit :=
    fun c ↦ if has c then .ok () else .error (.unsupported c)

def Device.Stateless (d : Device) : Prop :=
  ∀ earlier later r, d.launch earlier r = d.launch later r ∧
    d.launchTime earlier r = d.launchTime later r

end Conformance
