import Conformance.Attempt
import Conformance.Config.Loading
import Conformance.Suite.All
import Conformance.TestFilter

namespace Conformance

def FilterConfig.testFilter (c : FilterConfig) (readers : Readers := {}) :
    Except HarnessError TestFilter :=
  match c.pattern with
  | none => .ok .all
  | some "" => .ok .all
  | some text =>
    if c.exact then .ok (.exact text)
    else if c.regex then match Pattern.ofText? text readers.patternLimit with
      | some p => .ok (.pattern p)
      | none => .error (.invalidPattern (readers.patternComplaint text))
    else .ok (.substring text)

structure Session where
  config : Config
  registry : Registry
  env : TestEnv
  filter : TestFilter
  exclude : List String
  timeout : Option Duration
  /-- Why the system grants no thread of a test's name, if it does not. The supply of threads does
  not run out, so other tests are no reason. -/
  threadFault : String → Option IoError

structure Setup where
  config : Option Config := none
  registry : Option Registry := none
  device : Option Device := none
  filter : Option TestFilter := none
  exclude : List String := []
  timeout : Option Duration := none
  processors : Nat := 1
  launchTime : NdRange → Duration := fun _ ↦ 0
  threadFault : String → Option IoError := fun _ ↦ none
  readers : Readers := {}

namespace Setup

def registry? (s : Setup) : Except HarnessError Registry :=
  match s.registry with
  | some r => .ok r
  | none => Suite.registry.mapError .duplicateTest

def limit? (s : Setup) (c : Config) : Except HarnessError (Option Duration) :=
  let limit := s.timeout.or (c.run.timeout.map .ofSeconds)
  if limit = some 0 then .error (.invalidSetting "run.timeout" "0") else .ok limit

def build (s : Setup) : Except HarnessError Session := do
  let config := s.config.getD {}
  let registry ← s.registry?
  let filter ← match s.filter with
    | some f => pure f
    | none => config.filter.testFilter s.readers
  let timeout ← s.limit? config
  return {
    config, registry, filter, timeout
    env := ⟨s.device.getD (HostDevice.ofConfig config.device s.processors s.launchTime),
      config.parameters⟩
    exclude := (config.filter.exclude ++ s.exclude).filter (· ≠ "")
    threadFault := s.threadFault }

end Setup

def Verdict.outcome (v : Verdict) (t : TestCase) : Outcome :=
  .ofEvents t.descriptor v.events v.elapsed v.timedOut

/-- What the device, the operator and the system have seen of a run so far. -/
structure Journal where
  launches : Array NdRange := #[]
  notices : Array Notice := #[]
  tests : Nat := 0
  elapsed : Duration := 0
  /-- The times at which threads that were given up take the program down. -/
  fuses : List Duration := []

namespace Journal

def after (j : Journal) (v : Verdict) : Journal where
  launches := v.launches
  notices := j.notices ++ v.notices
  tests := j.tests + 1
  elapsed := j.elapsed + v.elapsed
  fuses := j.fuses ++ (v.fuse.map (j.elapsed + ·)).toList

def outlasts (j : Journal) (v : Verdict) : Bool :=
  j.fuses.all fun fuse ↦ !(fuse ≤ j.elapsed + v.elapsed)

def noted (j : Journal) (n : Notice) : Journal := { j with notices := j.notices.push n }

end Journal

abbrev Run := StateT Journal (Except Abort)

def Run.announce (n : Notice) : Run Unit := modify (·.noted n)

namespace Session

def isExcluded (s : Session) (name : String) : Bool :=
  s.exclude.any fun part ↦ occursIn part.toList name.toList

def candidates (s : Session) : TestFilter → Except HarnessError (List TestCase)
  | .exact name =>
    match s.registry.find? name with
    | some t => .ok [t]
    | none => .error (.testNotFound name)
  | f => .ok (s.registry.entries.toList.filter fun t ↦ f.selects t.name)

def select (s : Session) (f : TestFilter) : Except HarnessError (List TestCase) :=
  (s.candidates f).map fun ts ↦ ts.filter fun t ↦ !s.isExcluded t.name

def list (s : Session) : Except HarnessError (List Descriptor) :=
  (s.select s.filter).map fun ts ↦ ts.map TestCase.descriptor

/-- What the session makes of a test that runs after all that the journal tells. A test that cannot
get a thread of its name never starts. -/
def judge (s : Session) (t : TestCase) (j : Journal) : Except Abort Verdict :=
  let a := Attempt.ofTest s.env t j.launches
  match s.timeout with
  | none => a.verdict
  | some limit =>
    if !Attempt.isThreadName t.name then .error (.panicked (some Attempt.nullInNameMessage))
    else match s.threadFault t.name with
      | some cause => .ok (Attempt.unstarted cause j.launches)
      | none => a.verdictWithin t.name limit

/-- The verdict on a test, unless a thread of an earlier one takes the program down meanwhile. -/
def verdictOn (s : Session) (t : TestCase) (j : Journal) : Except Abort Verdict := do
  let v ← s.judge t j
  if j.outlasts v then return v else throw .collapsed

def runTest (s : Session) (t : TestCase) : Run Outcome := do
  let v ← s.verdictOn t (← get)
  modify (·.after v)
  return v.outcome t

def startNotice (s : Session) (selected : List TestCase) : Notice :=
  ⟨.info, Attempt.speaker, "starting conformance run", [("device", .text s.env.device.name),
    ("selected", .number selected.length), ("registered", .number s.registry.size)]⟩

def finishNotice (r : RunReport) : Notice :=
  ⟨.info, Attempt.speaker, "conformance run finished", [("passed", .number r.passed),
    ("failed", .number r.failed), ("skipped", .number r.skipped)]⟩

def prepare (s : Session) (f : TestFilter) : Except HarnessError (List TestCase) :=
  match s.env.device.validate with
  | .error e => .error (.unusableDevice s.env.device.name e)
  | .ok _ => s.select f

def runTests (s : Session) (tests : List TestCase) : Run RunReport := do
  Run.announce (s.startNotice tests)
  let report := RunReport.ofOutcomes (← tests.mapM s.runTest)
  Run.announce (finishNotice report)
  return report

def runFiltered (s : Session) (f : TestFilter) : Run (Except HarnessError RunReport) :=
  match s.prepare f with
  | .error e => return .error e
  | .ok tests => do return .ok (← s.runTests tests)

def runAll (s : Session) : Run (Except HarnessError RunReport) := s.runFiltered s.filter

end Session

end Conformance
