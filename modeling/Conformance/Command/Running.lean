import Conformance.Command.Line
import Conformance.Command.LogFilter
import Conformance.Report.Stored
import Conformance.Session

namespace Conformance

structure Host where
  files : FileTree
  env : Environment
  processors : Nat := 1
  tests : List TestCase := Suite.all
  /-- Why the system cannot tell the working directory, if it cannot. -/
  directoryFault : Option IoError := none
  /-- After how many lines standard output takes no more, and why, if it does not take them all. -/
  outputFault : Option (Nat × IoError) := none
  /-- Why the system grants no thread of a test's name, if it does not. -/
  threadFault : String → Option IoError := fun _ ↦ none
  /-- How long a launch takes on the host. -/
  launchTime : NdRange → Duration := fun _ ↦ 0
  readers : Readers := {}

inductive Emission
  | output (line : String)
  | complaint (line : String)
  | notice (n : Notice) (visible : Bool)

structure CommandResult where
  exitCode : Nat
  emissions : List Emission
  /-- The files by then, less directories made on the way to a report that could not be written. -/
  files : FileTree
  journal : Journal := {}
  report : Option RunReport := none
  error : Option HarnessError := none

namespace CommandResult

def output (r : CommandResult) : List String :=
  r.emissions.filterMap fun | .output line => some line | _ => none

def complaints (r : CommandResult) : List String :=
  r.emissions.filterMap fun | .complaint line => some line | _ => none

def errorLines (r : CommandResult) : List String :=
  r.emissions.filterMap fun
    | .complaint line => some line
    | .notice n true => some n.line
    | _ => none

def notices (r : CommandResult) : List Notice :=
  r.emissions.filterMap fun | .notice n _ => some n | _ => none

end CommandResult

def HarnessError.hint? (e : HarnessError) : Option String :=
  if e.isConfiguration then
    some "no tests were run; check cts-harness.toml, CTS_HARNESS_* variables and flags"
  else if e.isStartup then some "no tests were run; the device could not be used"
  else none

def HarnessError.lines (e : HarnessError) : List String :=
  ("error: " ++ e.message) :: (e.hint?.map ("note: " ++ ·)).toList

def harnessErrorCode : Nat := 2

def Environment.logFilter (env : Environment) (verbose : Bool) : LogFilter :=
  ((env.get? "RUST_LOG").bind LogFilter.ofText?).getD (.upTo (if verbose then .debug else .warn))

def Environment.overrideNotice (e : String × String) : Notice :=
  ⟨.info, "cts_harness::cli", "env override " ++ e.1 ++ "=" ++ e.2, []⟩

namespace Host

def registry (h : Host) : Except HarnessError Registry :=
  (Registry.ofAnnounced h.tests).mapError .duplicateTest

def print (h : Host) (lines : List String) : List Emission × Option IoError :=
  match h.outputFault with
  | none => (lines.map .output, none)
  | some (n, e) => ((lines.take n).map .output, if n < lines.length then some e else none)

/-- Prints a report, and then stores it where the settings say: what was printed, and the files with
the report among them or what got in the way. -/
def deliver (h : Host) (config : Config) (report : RunReport) :
    List Emission × Except IoError FileTree :=
  match h.print (report.lines config.report.showNotes), config.report.json with
  | (printed, some e), _ => (printed, .error e)
  | (printed, none), none => (printed, .ok h.files)
  | (printed, none), some path => (printed, h.files.writeInto path report.stored)

end Host

namespace CommandLine

def source (c : CommandLine) (h : Host) : ConfigSource where
  file := c.config
  searchDir := if c.config.isSome then none else some h.files.workingDirectory
  profile := c.profile
  readers := h.readers

def loadConfig (c : CommandLine) (h : Host) : Except HarnessError (Config × List Notice) :=
  (Config.load (c.source h) h.files h.env).map fun (config, notices) ↦ (c.applyTo config, notices)

def settings (c : CommandLine) (h : Host) : Except HarnessError (Config × List Notice) :=
  match c.config, h.directoryFault with
  | none, some e => .error (.io e)
  | _, _ => c.loadConfig h

def logFilter (c : CommandLine) (h : Host) (config : Config) : LogFilter :=
  h.env.logFilter (c.verbose || config.verbose)

def shownBy (f : LogFilter) (ns : List Notice) : List Emission :=
  ns.map fun n ↦ .notice n (f.admits n)

def stopped (h : Host) (soFar : List Emission) (journal : Journal) (report : Option RunReport)
    (e : HarnessError) : CommandResult where
  exitCode := harnessErrorCode
  emissions := soFar ++ e.lines.map .complaint
  files := h.files
  journal := journal
  report := report
  error := some e

def listTests (h : Host) (s : Session) (soFar : List Emission) : CommandResult :=
  match s.list with
  | .error e => stopped h soFar {} none e
  | .ok tests =>
    match h.print (listingLines (tests.map Descriptor.name)) with
    | (printed, some e) => stopped h (soFar ++ printed) {} none (.io e)
    | (printed, none) => { exitCode := 0, emissions := soFar ++ printed, files := h.files }

def conclude (h : Host) (config : Config) (report : RunReport) (soFar : List Emission)
    (journal : Journal) : CommandResult :=
  match h.deliver config report with
  | (printed, .error e) => stopped h (soFar ++ printed) journal (some report) (.io e)
  | (printed, .ok files) =>
    { exitCode := report.exitCode, emissions := soFar ++ printed, files, journal,
      report := some report }

def runTests (h : Host) (f : LogFilter) (s : Session) (soFar : List Emission) :
    Except Abort CommandResult := do
  let (result, journal) ← s.runAll.run {}
  let soFar := soFar ++ shownBy f journal.notices.toList
  match result with
  | .error e => return stopped h soFar journal none e
  | .ok report => return conclude h s.config report soFar journal

def session (h : Host) (config : Config) : Except HarnessError Session := do
  let registry ← h.registry
  Setup.build
    { config := some config, registry := some registry, processors := h.processors,
      launchTime := h.launchTime, threadFault := h.threadFault, readers := h.readers }

def run (c : CommandLine) (h : Host) : Except Abort CommandResult :=
  match c.settings h with
  | .error e => .ok (stopped h [] {} none e)
  | .ok (config, notices) =>
    let f := c.logFilter h config
    let overrides := if config.verbose then h.env.active.map Environment.overrideNotice else []
    let soFar := shownBy (h.env.logFilter c.verbose) notices ++ shownBy f overrides
    match session h config with
    | .error e => .ok (stopped h soFar {} none e)
    | .ok s => if c.list then .ok (listTests h s soFar) else runTests h f s soFar

end CommandLine

end Conformance
