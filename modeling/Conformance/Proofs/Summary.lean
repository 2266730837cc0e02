import Conformance.Proofs.Severity
import Conformance.Report.Basic
import Mathlib.Data.List.Nodup
import Mathlib.Tactic.TFAE

namespace Conformance

theorem linesText_eq_empty_iff {lines : List String} : linesText lines = "" ↔ lines = [] := by
  cases lines with
  | nil => simp [linesText]
  | cons line lines => simp [linesText]

namespace Outcome

def Consistent (o : Outcome) : Prop := o.status = .ofEvents o.events

theorem ofEvents_consistent (d : Descriptor) (events : List Event) (duration : Duration)
    (timedOut : Bool) : (ofEvents d events duration timedOut).Consistent := rfl

variable {o : Outcome}

theorem Consistent.isWorst (h : o.Consistent) : o.status.IsWorst o.events :=
  Status.isWorst_iff.2 h

theorem Consistent.failed_iff (h : o.Consistent) :
    o.status = .failed ↔ ∃ message location, .fail message location ∈ o.events := by
  rw [h]
  exact Status.ofEvents_eq_failed_iff

theorem failures_eq_nil_iff :
    o.failures = [] ↔ ∀ message location, .fail message location ∉ o.events := by
  rw [failures, List.filterMap_eq_nil_iff]
  constructor
  · intro h message location he
    cases h _ he
  · intro h e he
    cases e with
    | fail message location => exact absurd he (h message location)
    | pass | skip _ | note _ => rfl

end Outcome

namespace RunReport

variable {outcomes : List Outcome}

theorem counts_add_up (outcomes : List Outcome) :
    (ofOutcomes outcomes).passed + (ofOutcomes outcomes).failed + (ofOutcomes outcomes).skipped =
      (ofOutcomes outcomes).total := by
  simp only [ofOutcomes, total]
  induction outcomes with
  | nil => rfl
  | cons o outcomes ih =>
    cases hs : o.status <;> simp only [List.filter_cons, hs, List.length_cons, beq_iff_eq,
      reduceCtorEq, if_true, if_false] <;> omega

theorem success_iff :
    (ofOutcomes outcomes).success = true ↔ ∀ o ∈ outcomes, o.status ≠ .failed := by
  simp [ofOutcomes, success]

theorem exitCode_eq_zero_iff {r : RunReport} : r.exitCode = 0 ↔ r.success = true := by
  cases h : r.success <;> simp [exitCode, h]

theorem failureDetails_eq_empty_iff {r : RunReport} :
    r.failureDetails = "" ↔ ∀ o ∈ r.outcomes, o.status = .failed → o.failures = [] := by
  simp [failureDetails, linesText_eq_empty_iff, failures, failedOutcomes]

theorem success_tfae (h : ∀ o ∈ outcomes, o.Consistent) :
    [(ofOutcomes outcomes).success = true, (ofOutcomes outcomes).exitCode = 0,
      ∀ o ∈ outcomes, ∀ message location, .fail message location ∉ o.events,
      (ofOutcomes outcomes).failureDetails = ""].TFAE := by
  tfae_have 1 ↔ 2 := exitCode_eq_zero_iff.symm
  tfae_have 1 ↔ 3 := by
    rw [success_iff]
    refine forall₂_congr fun o ho ↦ ?_
    rw [Ne, (h o ho).failed_iff]
    simp
  tfae_have 3 → 4 := fun h3 ↦
    failureDetails_eq_empty_iff.2 fun o ho _ ↦ Outcome.failures_eq_nil_iff.2 (h3 o ho)
  tfae_have 4 → 1 := by
    -- A failed outcome holds a failure, so it would leave a line.
    intro h4
    refine success_iff.2 fun o ho hf ↦ ?_
    obtain ⟨message, location, he⟩ := (h o ho).failed_iff.1 hf
    have hn := failureDetails_eq_empty_iff.1 h4 o ho hf
    exact Outcome.failures_eq_nil_iff.1 hn message location he
  tfae_finish

theorem outcome?_isSome_iff {r : RunReport} {name : String} :
    (r.outcome? name).isSome = true ↔ name ∈ r.outcomes.map Outcome.name := by
  simp [outcome?, List.find?_isSome]

theorem outcome?_eq_some_iff {r : RunReport} (h : (r.outcomes.map Outcome.name).Nodup)
    {name : String} {o : Outcome} :
    r.outcome? name = some o ↔ o ∈ r.outcomes ∧ o.name = name := by
  constructor
  · intro hf
    exact ⟨List.mem_of_find?_eq_some hf, by simpa using List.find?_some hf⟩
  · rintro ⟨ho, rfl⟩
    have hs := outcome?_isSome_iff.2 (List.mem_map.2 ⟨o, ho, rfl⟩)
    obtain ⟨o', ho'⟩ := Option.isSome_iff_exists.1 hs
    have hn : o'.name = o.name := by simpa using List.find?_some ho'
    rw [ho', List.inj_on_of_nodup_map h (List.mem_of_find?_eq_some ho') ho hn]

end RunReport

end Conformance
