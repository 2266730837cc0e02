import Conformance.Coverage.TypePack
import Conformance.Suite.Range

namespace Conformance.Suite.Copy

open Coverage (DataType Visit)

variable (t : DataType)

/-- A slot that is written once, of which four bytes keep track. -/
def slotBytes (t : DataType) : Nat := Suite.slotBytes 4 t

def fault (slots : Nat) (item : WorkItem) : Option String :=
  if slots ≤ item.globalId then some (outOfBounds slots item.globalId)
  else match t.sample item.globalId with
    | .ok _ => none
    | .error e => some e.message

/-- The slots of a launch, and how often a kernel found its slot taken. -/
structure Slots where
  values : Array (Option t.Value)
  repeats : Nat

variable {t}

def Slots.write (s : Slots t) (item : WorkItem) : Slots t :=
  match s.values[item.globalId]?, t.sample item.globalId with
  | some none, .ok v => { s with values := s.values.setIfInBounds item.globalId (some v) }
  | some (some _), _ => { s with repeats := s.repeats + 1 }
  | _, _ => s

variable (t)

def Slots.ofItems (count : Nat) (items : List WorkItem) : Slots t :=
  items.foldl Slots.write ⟨Array.replicate count none, 0⟩

variable {t}

def Slots.wrong (s : Slots t) (expected : List t.Value) : Nat :=
  ((s.values.toList.zip expected).filter fun (v, e) ↦ !(v == some e)).length

def checkType (env : TestEnv) (r : NdRange) (checked : Nat) (v : Visit) : Script Nat := do
  match lacking? env.device v.type.requires with
  | some c =>
    .note (notChecked v.label c)
    return checked
  | none =>
    reserve r.globalSize (slotBytes v.type)
    let items ← env.launchItems r (fault v.type r.globalSize)
    let expected ← .ofWord ((List.range r.globalSize).mapM v.type.sample)
    let slots := Slots.ofItems v.type r.globalSize items
    let wrong := slots.wrong expected
    let _ ← Script.check (wrong == 0) (v.label ++ ": " ++ shown wrong ++ " of " ++
      shown r.globalSize ++ " slots hold the wrong value")
    let _ ← Script.check (slots.repeats == 0) (v.label ++ ": " ++ shown slots.repeats ++
      " work-items ran more than once")
    return checked + 1

def body (env : TestEnv) : Script Unit := do
  let r ← launchRange env
  let checked ← Coverage.TypePack.scalars.visitsWithVectors.foldlM (checkType env r) 0
  .note ("checked " ++ shown checked ++ " types")

def test : TestCase := ⟨⟨"kernel_copy", "src/suites/kernel_copy.rs"⟩, body⟩

end Conformance.Suite.Copy
