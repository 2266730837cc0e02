import Conformance.Coverage.TypePack
import Conformance.Suite.Range

namespace Conformance.Suite.Reduction

open Coverage (DataType Visit)

/-- A partial sum under a lock of four bytes, and a byte that tells whether a holder panicked. -/
def slotBytes (t : DataType) : Nat := Suite.slotBytes 5 t

def fault (t : DataType) (groups : Nat) (item : WorkItem) : Option String :=
  if groups ≤ item.groupId then some (outOfBounds groups item.groupId)
  else match t.sample item.globalId with
    | .ok _ => none
    | .error e => some e.message

variable {t : DataType}

def accumulate (partials : Array t.Value) (item : WorkItem) : Array t.Value :=
  match t.sample item.globalId with
  | .ok v => partials.modify item.groupId fun sum ↦ t.combine sum v
  | .error _ => partials

variable (t)

def total (values : List t.Value) : t.Value := values.foldl t.combine t.zero

def totalOfItems (groups : Nat) (items : List WorkItem) : t.Value :=
  total t (items.foldl accumulate (Array.replicate groups t.zero)).toList

def checkType (env : TestEnv) (r : NdRange) (v : Visit) : Script Unit := do
  match lacking? env.device v.type.requires with
  | some c => .note (notChecked v.label c)
  | none =>
    let groups := r.globalSize / r.localSize
    reserve groups (slotBytes v.type)
    let items ← env.launchItems r (fault v.type groups)
    let samples ← .ofWord ((List.range r.globalSize).mapM v.type.sample)
    let _ ← Script.checkEq (totalOfItems v.type groups items) (total v.type samples)
      (v.label ++ " sum")
    return ()

def body (env : TestEnv) : Script Unit := do
  let r ← launchRange env
  Coverage.TypePack.scalars.visits.forM (checkType env r)

def test : TestCase := ⟨⟨"reduction_sum", "src/suites/reduction_sum.rs"⟩, body⟩

end Conformance.Suite.Reduction
