import Conformance.Event

namespace Conformance

structure TestLog where
  events : Array Event
  status : Status
  deriving Repr

namespace TestLog

def empty : TestLog := ⟨#[], .passed⟩

instance : Inhabited TestLog := ⟨empty⟩

def record (log : TestLog) (e : Event) : TestLog :=
  ⟨log.events.push e, max log.status e.severity⟩

def pass (log : TestLog) : TestLog := log.record .pass

def note (log : TestLog) (message : String) : TestLog := log.record (.note message)

def skip (log : TestLog) (reason : String) : TestLog := log.record (.skip reason)

def fail (log : TestLog) (message : String) : TestLog :=
  log.record (.fail message (some .caller))

def failAt (log : TestLog) (message : String) (location : Location) : TestLog :=
  log.record (.fail message (some location))

def failUnlocated (log : TestLog) (message : String) : TestLog :=
  log.record (.fail message none)

def check (log : TestLog) (condition : Bool) (message : String) : Bool × TestLog :=
  (condition, if condition then log else log.fail message)

variable {α : Type} [BEq α] [Shown α]

def mismatch (actual expected : α) (what : String) : String :=
  what ++ ": expected " ++ shown expected ++ ", got " ++ shown actual

def checkEq (log : TestLog) (actual expected : α) (what : String) : Bool × TestLog :=
  log.check (actual == expected) (mismatch actual expected what)

def hasFailed (log : TestLog) : Bool := log.status == .failed

end TestLog

end Conformance
