import Conformance.Duration
import Conformance.HarnessError
import Conformance.Notice
import Conformance.TestLog

namespace Conformance

/-- What a panic hands over: a message, some other value, or a value whose disposal panics again
and hands over the next. -/
inductive Payload
  | text (message : String)
  | value
  | bomb (next : Payload)
  deriving DecidableEq, Repr

def Payload.text? : Payload → Option String
  | text message => some message
  | value | bomb _ => none

def Payload.message (p : Payload) : String := p.text?.getD "non-string panic payload"

inductive Interruption
  | failed (error : CaseError)
  | panicked (payload : Payload)
  | stuck

inductive Script (α : Type)
  | done (a : α)
  | stop (cause : Interruption)
  | record (e : Event) (next : Script α)
  | notify (n : Notice) (next : Script α)
  | wait (d : Duration) (next : Script α)
  | launch (r : NdRange) (next : Launch → Script α)

namespace Script

variable {α β : Type}

def bind : Script α → (α → Script β) → Script β
  | done a, f => f a
  | stop cause, _ => stop cause
  | record e next, f => record e (next.bind f)
  | notify n next, f => notify n (next.bind f)
  | wait d next, f => wait d (next.bind f)
  | launch r next, f => launch r fun l ↦ (next l).bind f

instance : Monad Script where
  pure := done
  bind := bind

def pass : Script Unit := record .pass (done ())

def note (message : String) : Script Unit := record (.note message) (done ())

def skip (reason : String) : Script Unit := record (.skip reason) (done ())

def fail (message : String) : Script Unit := record (.fail message (some .caller)) (done ())

def check (condition : Bool) (message : String) : Script Bool :=
  if condition then done true else record (.fail message (some .caller)) (done false)

def checkEq [BEq α] [Shown α] (actual expected : α) (what : String) : Script Bool :=
  check (actual == expected) (TestLog.mismatch actual expected what)

def panic (message : String) : Script α := stop (.panicked (.text message))

def ofDevice : Except DeviceError α → Script α
  | .ok a => done a
  | .error e => stop (.failed (.device e))

def ofWord : Except Overflow α → Script α
  | .ok a => done a
  | .error e => panic e.message

/-- What ran so far, and in what state it left the log. -/
structure Trace where
  log : TestLog
  launches : Array NdRange
  notices : Array Notice
  elapsed : Duration

def Trace.start (earlier : Array NdRange) : Trace := ⟨.empty, earlier, #[], 0⟩

/-- Runs a script on a device; a launch that crashes makes the script panic. -/
def run (d : Device) : Script α → Trace → Trace × Except Interruption α
  | done a, t => (t, .ok a)
  | stop cause, t => (t, .error cause)
  | record e next, t => next.run d { t with log := t.log.record e }
  | notify n next, t => next.run d { t with notices := t.notices.push n }
  | wait s next, t => next.run d { t with elapsed := t.elapsed + s }
  | launch r next, t =>
    let l := d.launch t.launches r
    let t := { t with
      launches := t.launches.push r
      elapsed := t.elapsed + d.launchTime t.launches r }
    match l.ending with
    | .crashed message => (t, .error (.panicked (.text message)))
    | _ => (next l).run d t

end Script

end Conformance
