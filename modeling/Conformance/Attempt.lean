import Conformance.TestCase

namespace Conformance

/-- How an attempt ends: with a log to show, in the disposal of what a panic handed over, which
leaves the remains, or not at all. -/
inductive AttemptEnd
  | reported
  | died (remains : Payload)
  | endless
  deriving DecidableEq, Repr

def AttemptEnd.ofPayload : Payload → AttemptEnd
  | .text _ | .value => .reported
  | .bomb next => .died next

structure Attempt where
  trace : Script.Trace
  ending : AttemptEnd

namespace Attempt

def speaker : String := "cts_harness::core::builder"

def failedNotice (e : CaseError) : Notice :=
  ⟨.warn, speaker, "test returned an error: " ++ e.message, []⟩

def panicNotice (p : Payload) : Notice := ⟨.warn, speaker, "test panicked: " ++ p.message, []⟩

def withFailure (t : Script.Trace) (n : Notice) (message : String) : Script.Trace :=
  { t with log := t.log.failUnlocated message, notices := t.notices.push n }

def conclude : Script.Trace × Except Interruption Unit → Attempt
  | (t, .ok ()) => ⟨t, .reported⟩
  | (t, .error (.failed e)) =>
    ⟨withFailure t (failedNotice e) ("unexpected error: " ++ e.message), .reported⟩
  | (t, .error (.panicked p)) =>
    ⟨withFailure t (panicNotice p) ("panicked: " ++ p.message), .ofPayload p⟩
  | (t, .error .stuck) => ⟨t, .endless⟩

/-- Runs a test on the device of the environment, after the launches that the device has seen. -/
def ofTest (env : TestEnv) (t : TestCase) (earlier : Array NdRange) : Attempt :=
  conclude ((t.body env).run env.device (.start earlier))

def events (a : Attempt) : List Event := a.trace.log.events.toList

end Attempt

inductive Abort
  | panicked (message : Option String)
  | endless
  /-- A thread that was given up takes the program down. -/
  | collapsed
  deriving DecidableEq, Repr

structure Verdict where
  events : List Event
  notices : List Notice
  elapsed : Duration
  timedOut : Bool
  launches : Array NdRange
  /-- When, after the start of the test, its thread takes the program down, if it does. -/
  fuse : Option Duration := none

namespace Attempt

def settled (a : Attempt) (events : List Event) : Verdict where
  events := events
  notices := a.trace.notices.toList
  elapsed := a.trace.elapsed
  timedOut := false
  launches := a.trace.launches

def verdict (a : Attempt) : Except Abort Verdict :=
  match a.ending with
  | .reported => .ok (a.settled a.events)
  | .died remains => .error (.panicked remains.text?)
  | .endless => .error .endless

end Attempt

/-- What the session learns from the thread of a test: the log that it sends, or that it is gone
and what it left, or nothing in time. -/
inductive Reply
  | log (log : TestLog)
  | gone (remains : Payload)
  | overdue

def Payload.dispose : Payload → Except Abort Unit
  | .text _ | .value => .ok ()
  | .bomb next => .error (.panicked next.text?)

namespace Attempt

def timeoutMessage (limit : Duration) : String := "timed out after " ++ limit.text

def timeoutNotice (name : String) (limit : Duration) : Notice :=
  ⟨.warn, speaker, "test " ++ timeoutMessage limit, [("test", .text name)]⟩

def goneMessage : String := "test thread exited without reporting"

/-- When an attempt that nobody waits for takes the program down: in the disposal of what it leaves,
which nothing may stop. -/
def fuse (a : Attempt) : Option Duration :=
  match a.ending with
  | .died (.bomb _) => some a.trace.elapsed
  | .died _ | .reported | .endless => none

/-- What is left of an attempt that the limit cut short: that it took too long, and a thread that is
still at work. All its launches come before those of later tests here; how the threads take turns is
up to the answers of the device. -/
def overdue (a : Attempt) (name : String) (limit : Duration) : Verdict where
  events := [.fail (timeoutMessage limit) none]
  notices := a.trace.notices.toList ++ [timeoutNotice name limit]
  elapsed := limit
  timedOut := true
  launches := a.trace.launches
  fuse := a.fuse

def unstarted (cause : IoError) (earlier : Array NdRange) : Verdict where
  events := [.fail ("failed to spawn test thread: " ++ cause.message) none]
  notices := []
  elapsed := 0
  timedOut := false
  launches := earlier

def replyBy (a : Attempt) (limit : Duration) : Reply :=
  if a.trace.elapsed ≤ limit then match a.ending with
    | .reported => .log a.trace.log
    | .died remains => .gone remains
    | .endless => .overdue
  else .overdue

def verdictUpon (a : Attempt) (name : String) (limit : Duration) : Reply → Except Abort Verdict
  | .log log => .ok (a.settled log.events.toList)
  | .overdue => .ok (a.overdue name limit)
  | .gone remains => do
    remains.dispose
    return a.settled [.fail goneMessage none]

def verdictWithin (a : Attempt) (name : String) (limit : Duration) : Except Abort Verdict :=
  a.verdictUpon name limit (a.replyBy limit)

/-- The thread of a test is named after it, and no thread has a null in its name. -/
def isThreadName (name : String) : Bool := !name.toList.contains '\x00'

def nullInNameMessage : String := "thread name may not contain interior null bytes"

end Attempt

end Conformance
