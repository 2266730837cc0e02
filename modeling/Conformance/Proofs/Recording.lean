import Conformance.Proofs.Severity

namespace Conformance

namespace Status

theorem ofEvents_perm {events events' : List Event} (h : events.Perm events') :
    ofEvents events = ofEvents events' := by
  have hw := ofEvents_isWorst events
  refine IsWorst.unique ⟨fun e he ↦ hw.bound e (h.mem_iff.2 he), ?_⟩ (ofEvents_isWorst events')
  exact hw.attained.imp_right fun ⟨e, he, hs⟩ ↦ ⟨e, h.mem_iff.1 he, hs⟩

end Status

namespace TestLog

inductive Step : Type 1
  | pass
  | note (message : String)
  | skip (reason : String)
  | fail (message : String)
  | failAt (message : String) (location : Location)
  | failUnlocated (message : String)
  | check (condition : Bool) (message : String)
  | checkEq {α : Type} [BEq α] [Shown α] (actual expected : α) (what : String)

namespace Step

def perform : Step → TestLog → Option Bool × TestLog
  | pass, log => (none, log.pass)
  | note message, log => (none, log.note message)
  | skip reason, log => (none, log.skip reason)
  | fail message, log => (none, log.fail message)
  | failAt message location, log => (none, log.failAt message location)
  | failUnlocated message, log => (none, log.failUnlocated message)
  | check condition message, log => (log.check condition message).map some id
  | checkEq actual expected what, log => (log.checkEq actual expected what).map some id

def Checks : Step → Prop
  | check _ _ | checkEq _ _ _ => True
  | _ => False

def events : Step → List Event
  | pass => [.pass]
  | note message => [.note message]
  | skip reason => [.skip reason]
  | fail message => [.fail message (some .caller)]
  | failAt message location => [.fail message (some location)]
  | failUnlocated message => [.fail message none]
  | check condition message => if condition then [] else [.fail message (some .caller)]
  | checkEq actual expected what =>
    if actual == expected then [] else [.fail (mismatch actual expected what) (some .caller)]

end Step

def after (steps : List Step) : TestLog := steps.foldl (fun log step ↦ (step.perform log).2) empty

variable {log : TestLog} {step : Step}

theorem check_events (log : TestLog) (condition : Bool) (message : String) :
    (log.check condition message).2.events.toList =
      log.events.toList ++ if condition then [] else [.fail message (some .caller)] := by
  cases condition
  · exact record_events log _
  · exact (List.append_nil _).symm

theorem Consistent.check (h : log.Consistent) (condition : Bool) (message : String) :
    (log.check condition message).2.Consistent := by
  cases condition
  · exact h.record _
  · exact h

theorem Step.perform_events (step : Step) (log : TestLog) :
    (step.perform log).2.events.toList = log.events.toList ++ step.events := by
  cases step with
  | check condition message => exact check_events log condition message
  | checkEq actual expected what => exact check_events log (actual == expected) _
  | _ => exact record_events log _

theorem Consistent.perform (h : log.Consistent) (step : Step) :
    (step.perform log).2.Consistent := by
  cases step with
  | check condition message => exact h.check condition message
  | checkEq actual expected what => exact h.check (actual == expected) _
  | _ => exact h.record _

theorem foldl_perform_events (steps : List Step) (log : TestLog) :
    (steps.foldl (fun log step ↦ (step.perform log).2) log).events.toList =
      log.events.toList ++ steps.flatMap Step.events := by
  induction steps generalizing log with
  | nil => simp
  | cons step steps ih => simp [ih, Step.perform_events]

theorem Consistent.foldl_perform (h : log.Consistent) (steps : List Step) :
    (steps.foldl (fun log step ↦ (step.perform log).2) log).Consistent := by
  induction steps generalizing log with
  | nil => exact h
  | cons step steps ih => exact ih (h.perform step)

theorem after_events (steps : List Step) :
    (after steps).events.toList = steps.flatMap Step.events := by
  rw [after, foldl_perform_events]
  rfl

theorem after_consistent (steps : List Step) : (after steps).Consistent :=
  empty_consistent.foldl_perform steps

theorem after_status (steps : List Step) :
    (after steps).status = .ofEvents (steps.flatMap Step.events) := by
  rw [after_consistent, after_events]

theorem hasFailed_iff (log : TestLog) : log.hasFailed = true ↔ log.status = .failed := by
  simp [hasFailed]

theorem after_status_le (steps more : List Step) :
    (after steps).status ≤ (after (steps ++ more)).status := by
  rw [after_status, after_status, List.flatMap_append, Status.ofEvents_append_events]
  exact Status.le_max_left _ _

theorem after_status_perm {steps steps' : List Step} (h : steps.Perm steps') :
    (after steps).status = (after steps').status := by
  rw [after_status, after_status]
  exact Status.ofEvents_perm (h.flatMap_right _)

theorem Step.check_answers (condition : Bool) (message : String) (log : TestLog) :
    ((check condition message).perform log).1 = some true ∧ (check condition message).events = [] ∨
    ((check condition message).perform log).1 = some false ∧
      (check condition message).events = [.fail message (some .caller)] := by
  cases condition
  · exact .inr ⟨rfl, rfl⟩
  · exact .inl ⟨rfl, rfl⟩

structure Step.Tells (step : Step) (log : TestLog) : Prop where
  appends : (step.perform log).2.events.toList = log.events.toList ++ step.events
  records : ¬ step.Checks → ∃ e, step.events = [e]
  answers : step.Checks → (step.perform log).1 = some true ∧ step.events = [] ∨
    (step.perform log).1 = some false ∧ ∃ message location, step.events = [.fail message location]
  neutral : step = .pass ∨ (∃ message, step = .note message) →
    (step.perform log).2.status = log.status

theorem Step.tells (step : Step) (log : TestLog) : step.Tells log where
  appends := step.perform_events log
  records h := by
    cases step with
    | check _ _ | checkEq _ _ _ => exact (h trivial).elim
    | _ => exact ⟨_, rfl⟩
  answers h := by
    cases step with
    | check condition message =>
      exact (check_answers condition message log).imp_right fun ⟨ha, he⟩ ↦ ⟨ha, _, _, he⟩
    | checkEq actual expected what =>
      -- A comparison is the check of its result.
      have hc := check_answers (actual == expected) (mismatch actual expected what) log
      exact hc.imp_right fun ⟨ha, he⟩ ↦ ⟨ha, _, _, he⟩
    | _ => exact h.elim
  neutral h := by
    rcases h with rfl | ⟨message, rfl⟩
    · exact Status.max_passed log.status
    · exact Status.max_passed log.status

/-- After any operations the status that a log keeps is the worst severity of its events, and it has
failed if one of them is a failure. Further operations never make it better, and in any other order
the operations come to the same status. -/
theorem after_status_tells (steps : List Step) :
    (after steps).status = .ofEvents (after steps).events.toList ∧
    (after steps).status.IsWorst (after steps).events.toList ∧
    ((after steps).hasFailed = true ↔
      ∃ message location, .fail message location ∈ (after steps).events.toList) ∧
    (∀ more, (after steps).status ≤ (after (steps ++ more)).status ∧
      ((after steps).hasFailed = true → (after (steps ++ more)).hasFailed = true)) ∧
    (∀ steps', steps.Perm steps' → (after steps').status = (after steps).status) ∧
    ∀ step : Step, step.Tells (after steps) := by
  have hs : (after steps).status = .ofEvents (after steps).events.toList := after_consistent steps
  refine ⟨hs, Status.isWorst_iff.2 hs, ?_, fun more ↦ ⟨after_status_le steps more, ?_⟩,
    fun steps' h ↦ (after_status_perm h).symm, fun step ↦ step.tells _⟩
  · rw [hasFailed_iff, hs]
    exact Status.ofEvents_eq_failed_iff
  · intro hf
    have hle := after_status_le steps more
    rw [hasFailed_iff] at hf ⊢
    rw [hf] at hle
    exact Status.le_antisymm (Status.le_failed _) hle

end TestLog

end Conformance
