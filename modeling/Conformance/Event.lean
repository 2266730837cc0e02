import Conformance.Shown

namespace Conformance

structure Location where
  file : String
  line : Nat
  deriving DecidableEq, Repr, Inhabited

namespace Location

def text (l : Location) : String := l.file ++ ":" ++ Numeral.text l.line

/-- Stands for the place that called for a check, where only the caller knows it. -/
def caller : Location := ⟨"<caller>", 0⟩

end Location

inductive Event
  | pass
  | fail (message : String) (location : Option Location)
  | skip (reason : String)
  | note (message : String)
  deriving DecidableEq, Repr, Inhabited

inductive Status
  | passed
  | skipped
  | failed
  deriving DecidableEq, Repr, Inhabited

namespace Status

def rank : Status → Nat
  | passed => 0
  | skipped => 1
  | failed => 2

instance : LE Status := ⟨fun a b ↦ a.rank ≤ b.rank⟩
instance : LT Status := ⟨fun a b ↦ a.rank < b.rank⟩
instance (a b : Status) : Decidable (a ≤ b) := inferInstanceAs (Decidable (a.rank ≤ b.rank))
instance (a b : Status) : Decidable (a < b) := inferInstanceAs (Decidable (a.rank < b.rank))
instance : Max Status := ⟨fun a b ↦ if a ≤ b then b else a⟩

def marker : Status → String
  | passed => "PASS"
  | skipped => "SKIP"
  | failed => "FAIL"

def name : Status → String
  | passed => "passed"
  | skipped => "skipped"
  | failed => "failed"

def ofName? : String → Option Status
  | "passed" => some passed
  | "skipped" => some skipped
  | "failed" => some failed
  | _ => none

instance : Shown Status :=
  ⟨fun | passed => "Passed" | skipped => "Skipped" | failed => "Failed"⟩

end Status

namespace Event

def severity : Event → Status
  | pass => .passed
  | note _ => .passed
  | skip _ => .skipped
  | fail _ _ => .failed

def failure? : Event → Option (String × Option Location)
  | fail message location => some (message, location)
  | _ => none

def skipReason? : Event → Option String
  | skip reason => some reason
  | _ => none

def note? : Event → Option String
  | note message => some message
  | _ => none

end Event

/-- The worst severity of the events; a test without events has passed. -/
def Status.ofEvents (events : List Event) : Status :=
  (events.map Event.severity).foldl max .passed

end Conformance
