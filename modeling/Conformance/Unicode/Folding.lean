import Conformance.Unicode.FoldRuns

namespace Conformance.Unicode

def foldInRun (code : Nat) : Nat × Nat × Nat × Nat → Option Nat
  | (first, count, step, target) =>
    if first ≤ code && code < first + count * step && (code - first) % step == 0 then
      some (target + (code - first))
    else none

def fold (code : Nat) : Nat :=
  (foldRuns.findSome? (foldInRun code)).getD code

def unfoldInRun (code : Nat) : Nat × Nat × Nat × Nat → Option Nat
  | (first, count, step, target) =>
    if target ≤ code && code < target + count * step && (code - target) % step == 0 then
      some (first + (code - target))
    else none

/-- Every code point that is the same letter as `code`, itself included. -/
def sameLetter (code : Nat) : List Nat :=
  fold code :: foldRuns.filterMap (unfoldInRun (fold code))

end Conformance.Unicode
