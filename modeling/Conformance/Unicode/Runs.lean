namespace Conformance.Unicode

variable {α : Type}

/-- Runs that are being read: where each of them starts, and the length of the next so far. -/
structure RunReader (α : Type) where
  starts : Array (Nat × α)
  next : Nat
  length : Nat

def RunReader.empty : RunReader α := ⟨#[], 0, 0⟩

def RunReader.digit (r : RunReader α) (c : Char) : RunReader α :=
  { r with length := r.length * 16 + "0123456789abcdef".toList.idxOf c }

def RunReader.value (r : RunReader α) (a : α) : RunReader α :=
  ⟨r.starts.push (r.next, a), r.next + r.length, 0⟩

def valueBetween (starts : Array (Nat × α)) (default : α) (code lo hi : Nat) : α :=
  if lo + 1 < hi then
    let mid := (lo + hi) / 2
    if (starts.getD mid (0, default)).1 ≤ code then valueBetween starts default code mid hi
    else valueBetween starts default code lo mid
  else (starts.getD lo (0, default)).2
termination_by hi - lo

def valueAt (starts : Array (Nat × α)) (default : α) (code : Nat) : α :=
  valueBetween starts default code 0 starts.size

end Conformance.Unicode
