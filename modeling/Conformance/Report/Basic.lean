import Conformance.Duration
import Conformance.Event

namespace Conformance

structure Descriptor where
  name : String
  source : String
  deriving DecidableEq, Repr, Inhabited

instance : Shown Descriptor :=
  ⟨fun d ↦ "TestDescriptor \x7b name: " ++ shown d.name ++ ", source_location: " ++ shown d.source
    ++ " \x7d"⟩

structure Outcome where
  descriptor : Descriptor
  status : Status
  events : List Event
  duration : Duration
  timedOut : Bool
  deriving DecidableEq, Repr, Inhabited

namespace Outcome

def ofEvents (descriptor : Descriptor) (events : List Event) (duration : Duration)
    (timedOut : Bool) : Outcome :=
  ⟨descriptor, .ofEvents events, events, duration, timedOut⟩

def name (o : Outcome) : String := o.descriptor.name

def failures (o : Outcome) : List (String × Option Location) := o.events.filterMap Event.failure?

def skipReasons (o : Outcome) : List String := o.events.filterMap Event.skipReason?

def notes (o : Outcome) : List String := o.events.filterMap Event.note?

end Outcome

/-- A report that is read from a file keeps the statuses and counts that it was stored with, so
these are data of their own and not functions of the events. -/
structure RunReport where
  outcomes : List Outcome
  passed : Nat
  failed : Nat
  skipped : Nat
  deriving DecidableEq, Repr, Inhabited

def linesText (lines : List String) : String := String.join (lines.map (· ++ "\n"))

namespace RunReport

def ofOutcomes (outcomes : List Outcome) : RunReport :=
  let count (s : Status) := (outcomes.filter fun o ↦ o.status == s).length
  ⟨outcomes, count .passed, count .failed, count .skipped⟩

def total (r : RunReport) : Nat := r.outcomes.length

/-- Skipped tests do not count against success. -/
def success (r : RunReport) : Bool := r.failed == 0

def exitCode (r : RunReport) : Nat := if r.success then 0 else 1

def outcome? (r : RunReport) (name : String) : Option Outcome :=
  r.outcomes.find? fun o ↦ o.name == name

def failedOutcomes (r : RunReport) : List Outcome :=
  r.outcomes.filter fun o ↦ o.status == .failed

def failures (r : RunReport) : List (String × String × Option Location) :=
  r.failedOutcomes.flatMap fun o ↦ o.failures.map fun (message, location) ↦
    (o.name, message, location)

def failureLine : String × String × Option Location → String
  | (name, message, some location) => name ++ ": " ++ message ++ " (" ++ location.text ++ ")"
  | (name, message, none) => name ++ ": " ++ message

def failureDetails (r : RunReport) : String := linesText (r.failures.map failureLine)

end RunReport

end Conformance
