import Conformance.Report.Basic

namespace Conformance

inductive NotesPolicy
  | always
  | never
  | onFailure
  deriving DecidableEq, Repr, Inhabited

namespace NotesPolicy

def name : NotesPolicy → String
  | always => "always"
  | never => "never"
  | onFailure => "on-failure"

def ofName? : String → Option NotesPolicy
  | "always" => some always
  | "never" => some never
  | "on-failure" => some onFailure
  | _ => none

instance : Shown NotesPolicy :=
  ⟨fun | always => "Always" | never => "Never" | onFailure => "OnFailure"⟩

def shows : NotesPolicy → Status → Bool
  | always, _ => true
  | never, _ => false
  | onFailure, status => status == .failed

end NotesPolicy

namespace Outcome

/-- A skipped test gives its first reason, and any other test that ran out of time says so. -/
def remark (o : Outcome) : String :=
  match o.status, o.skipReasons with
  | .skipped, reason :: _ => ": " ++ reason
  | _, _ => if o.timedOut then " (timed out)" else ""

def headline (o : Outcome) : String := "[" ++ o.status.marker ++ "] " ++ o.name ++ o.remark

def lines (policy : NotesPolicy) (o : Outcome) : List String :=
  o.headline :: if policy.shows o.status then o.notes.map ("    note: " ++ ·) else []

def failureLines : String × Option Location → List String
  | (message, some location) => ["    " ++ message, "        at " ++ location.text]
  | (message, none) => ["    " ++ message]

def failureSection (o : Outcome) : List String :=
  "" :: ("---- " ++ o.name ++ " (" ++ o.descriptor.source ++ ") ----") ::
    o.failures.flatMap failureLines

end Outcome

namespace RunReport

def failureSections (r : RunReport) : List String :=
  if r.failed = 0 then []
  else "" :: "failures:" :: r.failedOutcomes.flatMap Outcome.failureSection

def summaryLines (r : RunReport) : List String :=
  ["", "test result: " ++ (if r.success then "ok" else "FAILED") ++ ". " ++ shown r.passed ++
    " passed, " ++ shown r.failed ++ " failed, " ++ shown r.skipped ++ " skipped"]

def lines (policy : NotesPolicy) (r : RunReport) : List String :=
  r.outcomes.flatMap (Outcome.lines policy) ++ r.failureSections ++ r.summaryLines

def text (policy : NotesPolicy) (r : RunReport) : String := linesText (r.lines policy)

end RunReport

def listingLines (names : List String) : List String :=
  names ++ ["", shown names.length ++ " tests"]

end Conformance
