import Conformance.Device.Basic

namespace Conformance

structure DeviceConfig where
  /-- Worker threads of a launch; zero stands for one per processor. -/
  threads : Nat := 0
  maxWorkGroupSize : Nat := 256
  subGroupSize : Option Nat := none
  fp64 : Bool := true
  atomic64 : Bool := true
  deriving DecidableEq, Repr, Inhabited

namespace HostDevice

def workerThreads (processors : Nat) (c : DeviceConfig) : Nat :=
  if c.threads = 0 then max processors 1 else c.threads

def has (c : DeviceConfig) : Capability → Bool
  | .fp64 => c.fp64
  | .atomic64 => c.atomic64
  | .subGroups => c.subGroupSize.isSome

def groupItems (localSize group : Nat) : List WorkItem :=
  (List.range localSize).map fun lane ↦ ⟨group * localSize + lane, lane, group⟩

/-- An uneven range is refused first, then one whose work-groups are too large. Which thread runs a
group cannot be seen from the items, so they are listed group by group. -/
def launch (maxWorkGroupSize : Nat) (r : NdRange) : Launch :=
  match r.groups with
  | none => ⟨[], .refused (.invalidWorkGroup r.globalSize r.localSize)⟩
  | some groups =>
    if maxWorkGroupSize < r.localSize then
      ⟨[], .refused (.workGroupTooLarge r.localSize maxWorkGroupSize)⟩
    else ⟨(List.range groups).flatMap (groupItems r.localSize), .completed⟩

def available (processors : Nat) (c : DeviceConfig) : Bool :=
  0 < workerThreads processors c && 0 < c.maxWorkGroupSize

def validate (processors : Nat) (c : DeviceConfig) : Except DeviceError Unit := do
  unless available processors c do
    .error (.unavailable ("host device needs at least one thread and a non-zero work-group " ++
      "limit (threads = " ++ shown (workerThreads processors c) ++ ", max work-group size = " ++
      shown c.maxWorkGroupSize ++ ")"))
  match c.subGroupSize with
  | none => .ok ()
  | some width =>
    if width = 0 ∨ c.maxWorkGroupSize % width ≠ 0 then
      .error (.unavailable ("sub-group size " ++ shown width ++
        " does not divide max work-group size " ++ shown c.maxWorkGroupSize))
    else .ok ()

def ofConfig (c : DeviceConfig) (processors : Nat := 1)
    (launchTime : NdRange → Duration := fun _ ↦ 0) : Device where
  name := "host"
  available := available processors c
  has := has c
  maxWorkGroupSize := c.maxWorkGroupSize
  subGroupSize := c.subGroupSize
  launch _ r := launch c.maxWorkGroupSize r
  launchTime _ r := launchTime r
  kernelFault _ := .crashed "a scoped thread panicked"
  validate := validate processors c

end HostDevice

end Conformance
