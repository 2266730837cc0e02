import Conformance.Dictionary
import Conformance.Readable
import Conformance.Report.Basic
import Conformance.Script

namespace Conformance

structure TestEnv where
  device : Device
  parameters : Dictionary String

instance : Shown TestEnv :=
  ⟨fun env ↦ "TestEnv \x7b device: " ++ shown env.device.name ++ ", parameters: \x7b" ++
    ", ".intercalate (env.parameters.map fun (k, v) ↦ shown k ++ ": " ++ shown v) ++ "\x7d \x7d"⟩

namespace TestEnv

variable {α : Type}

def param (env : TestEnv) (key : String) : Option String := env.parameters.get? key

def unreadable (key value : String) : Notice :=
  ⟨.warn, "cts_harness::core::context", "ignoring unparsable test parameter",
    [("key", .text key), ("value", .text value)]⟩

def paramOr [Readable α] (env : TestEnv) (key : String) (default : α) : Script α :=
  match env.param key with
  | none => .done default
  | some value =>
    match read? value with
    | some a => .done a
    | none => .notify (unreadable key value) (.done default)

/-- Launches a kernel. The kernel fails on an item for which `fault` gives a message; how the launch
ends then is up to the device. -/
def launch (env : TestEnv) (r : NdRange) (fault : WorkItem → Option String := fun _ ↦ none) :
    Script Launch :=
  .launch r fun l ↦
    match l.items.findSome? fault with
    | none => .done l
    | some message => match env.device.kernelFault message with
      | .crashed text => .panic text
      | ending => .done { l with ending }

def launchItems (env : TestEnv) (r : NdRange) (fault : WorkItem → Option String := fun _ ↦ none) :
    Script (List WorkItem) := do
  let l ← env.launch r fault
  match l.ending with
  | .refused e => .stop (.failed (.device e))
  | _ => return l.items

end TestEnv

structure TestCase where
  descriptor : Descriptor
  body : TestEnv → Script Unit

def TestCase.name (t : TestCase) : String := t.descriptor.name

instance : Shown TestCase :=
  ⟨fun t ↦ "RegistryEntry \x7b descriptor: " ++ shown t.descriptor ++ ", .. \x7d"⟩

end Conformance
