import Conformance.Proofs.Summary
import Conformance.Report.Text

namespace Conformance

def recordedFailures (outcomes : List Outcome) : List (String × String × Option Location) :=
  outcomes.flatMap fun o ↦ o.events.filterMap fun
    | .fail message location => some (o.name, message, location)
    | _ => none

structure FailureSection where
  test : Descriptor
  failures : List (String × Option Location)

/-- The lines tell of these failures: each has a line, and a second one for its place if that is
known. -/
inductive Listed : List String → List (String × Option Location) → Prop
  | nil : Listed [] []
  | unlocated {lines : List String} {failures : List (String × Option Location)}
      (message : String) : Listed lines failures →
      Listed (("    " ++ message) :: lines) ((message, none) :: failures)
  | located {lines : List String} {failures : List (String × Option Location)}
      (message file : String) (line : Nat) : Listed lines failures →
      Listed (("    " ++ message) :: ("        at " ++ file ++ ":" ++ shown line) :: lines)
        ((message, some ⟨file, line⟩) :: failures)

/-- The lines tell of these sections: each has a heading behind an empty line, and its failures. -/
inductive Headed : List String → List FailureSection → Prop
  | nil : Headed [] []
  | cons {own lines : List String} {failures : List (String × Option Location)}
      {sections : List FailureSection} (name source : String) : Listed own failures →
      Headed lines sections →
      Headed ("" :: ("---- " ++ name ++ " (" ++ source ++ ") ----") :: (own ++ lines))
        (⟨⟨name, source⟩, failures⟩ :: sections)

/-- The whole list has a heading of its own, unless there is nothing to list. -/
inductive Listing : List String → List FailureSection → Prop
  | absent : Listing [] []
  | present {lines : List String} {s : FailureSection} {sections : List FailureSection} :
      Headed lines (s :: sections) → Listing ("" :: "failures:" :: lines) (s :: sections)

/-- The lines tell of these failures: each has a line with its test, and with its place if that is
known. -/
inductive Detailed : List String → List (String × String × Option Location) → Prop
  | nil : Detailed [] []
  | unlocated {lines : List String} {failures : List (String × String × Option Location)}
      (name message : String) : Detailed lines failures →
      Detailed ((name ++ ": " ++ message) :: lines) ((name, message, none) :: failures)
  | located {lines : List String} {failures : List (String × String × Option Location)}
      (name message file : String) (line : Nat) : Detailed lines failures →
      Detailed ((name ++ ": " ++ message ++ " (" ++ file ++ ":" ++ shown line ++ ")") :: lines)
        ((name, message, some ⟨file, line⟩) :: failures)

namespace FailureSection

def ofOutcome (o : Outcome) : FailureSection := ⟨o.descriptor, o.failures⟩

def told (s : FailureSection) : List (String × String × Option Location) :=
  s.failures.map fun (message, location) ↦ (s.test.name, message, location)

end FailureSection

open FailureSection

theorem listed_failureLines (failures : List (String × Option Location)) :
    Listed (failures.flatMap Outcome.failureLines) failures := by
  induction failures with
  | nil => exact .nil
  | cons failure failures ih =>
    obtain ⟨message, location⟩ := failure
    cases location with
    | none => exact .unlocated message ih
    | some l =>
      have hplace : "        at " ++ l.text = "        at " ++ l.file ++ ":" ++ shown l.line := by
        rw [Location.text, ← String.append_assoc, ← String.append_assoc]
        rfl
      rw [List.flatMap_cons, Outcome.failureLines, hplace]
      exact .located message l.file l.line ih

theorem headed_failureSection (outcomes : List Outcome) :
    Headed (outcomes.flatMap Outcome.failureSection) (outcomes.map ofOutcome) := by
  induction outcomes with
  | nil => exact .nil
  | cons o outcomes ih => exact .cons o.name o.descriptor.source (listed_failureLines o.failures) ih

theorem detailed_failureLine (failures : List (String × String × Option Location)) :
    Detailed (failures.map RunReport.failureLine) failures := by
  induction failures with
  | nil => exact .nil
  | cons failure failures ih =>
    obtain ⟨name, message, location⟩ := failure
    cases location with
    | none => exact .unlocated name message ih
    | some l =>
      have hplace : name ++ ": " ++ message ++ " (" ++ l.text ++ ")" =
          name ++ ": " ++ message ++ " (" ++ l.file ++ ":" ++ shown l.line ++ ")" := by
        rw [Location.text, ← String.append_assoc, ← String.append_assoc]
        rfl
      rw [List.map_cons, RunReport.failureLine, hplace]
      exact .located name message l.file l.line ih

theorem Listing.eq_nil_iff {lines : List String} {sections : List FailureSection}
    (h : Listing lines sections) : lines = [] ↔ sections = [] := by
  cases h <;> simp

theorem Outcome.recorded_eq (o : Outcome) :
    (o.events.filterMap fun
      | .fail message location => some (o.name, message, location)
      | _ => none) = (ofOutcome o).told := by
  rw [told, ofOutcome, Outcome.failures, List.map_filterMap]
  congr 1
  funext e
  cases e <;> rfl

namespace RunReport

variable {outcomes : List Outcome}

theorem told_failed (h : ∀ o ∈ outcomes, o.Consistent) :
    (((outcomes.filter fun o ↦ o.status == .failed).map ofOutcome).flatMap told) =
      recordedFailures outcomes := by
  induction outcomes with
  | nil => rfl
  | cons o outcomes ih =>
    obtain ⟨ho, houtcomes⟩ := List.forall_mem_cons.1 h
    rw [recordedFailures, List.flatMap_cons, Outcome.recorded_eq, ← recordedFailures,
      ← ih houtcomes]
    by_cases hf : o.status = .failed
    · rw [List.filter_cons_of_pos (by simpa using hf), List.map_cons, List.flatMap_cons]
    · have hnone : o.failures = [] := by
        rw [Outcome.failures_eq_nil_iff]
        intro message location he
        exact hf (ho.failed_iff.2 ⟨message, location, he⟩)
      rw [List.filter_cons_of_neg (by simpa using hf)]
      simp [told, ofOutcome, hnone]

theorem failures_eq_recorded (h : ∀ o ∈ outcomes, o.Consistent) :
    (ofOutcomes outcomes).failures = recordedFailures outcomes := by
  rw [← told_failed h, List.flatMap_map]
  rfl

theorem failureSections_listing (outcomes : List Outcome) :
    Listing (ofOutcomes outcomes).failureSections
      ((outcomes.filter fun o ↦ o.status == .failed).map ofOutcome) := by
  have hfailed : (ofOutcomes outcomes).failed =
      (outcomes.filter fun o ↦ o.status == .failed).length := rfl
  have hsections : (ofOutcomes outcomes).failedOutcomes =
      outcomes.filter fun o ↦ o.status == .failed := rfl
  rw [failureSections, hfailed, hsections]
  have hheaded := headed_failureSection (outcomes.filter fun o ↦ o.status == .failed)
  cases hs : outcomes.filter fun o ↦ o.status == .failed with
  | nil => exact .absent
  | cons o failed =>
    rw [hs] at hheaded
    exact .present hheaded

def SaysOk (r : RunReport) : Prop :=
  ∃ figures, r.summaryLines = ["", "test result: ok. " ++ figures]

theorem saysOk_iff {r : RunReport} : r.SaysOk ↔ r.success = true := by
  cases hs : r.success with
  | true =>
    simp only [iff_true]
    refine ⟨shown r.passed ++ " passed, " ++ shown r.failed ++ " failed, " ++ shown r.skipped ++
      " skipped", ?_⟩
    simp [summaryLines, hs, String.append_assoc]
  | false =>
    simp only [Bool.false_eq_true, iff_false]
    rintro ⟨figures, hf⟩
    have hword := congrArg (fun lines ↦ (lines.getD 1 "").toList[13]?) hf
    simp [summaryLines, hs] at hword

def mixed : List Outcome :=
  [.ofEvents ⟨"copy", "copy.rs"⟩ [.skip "no fp64", .fail "x != y" (some ⟨"copy.rs", 3⟩), .pass,
      .fail "late" none] 0 true,
    .ofEvents ⟨"sum", "sum.rs"⟩ [.note "slow"] 0 false]

end RunReport

end Conformance
