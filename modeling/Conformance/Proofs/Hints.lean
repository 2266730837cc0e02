import Conformance.Proofs.Deadline
import Conformance.Proofs.ExitCodes
import Conformance.Proofs.Isolation

namespace Conformance

namespace Session

variable {s : Session} {t : TestCase} {o : Outcome} {j j' : Journal} {cause : Interruption}
variable {failure : Event}

/-- What the body of a test does is heard of, which takes a thread and enough time where there is a
limit. -/
def Hears (s : Session) (t : TestCase) (j : Journal) : Prop :=
  ∀ limit, s.timeout = some limit →
    s.threadFault t.name = none ∧ (s.bodyRun t j).1.elapsed ≤ limit

/-- What stops a body is in the verdict on it, if it is heard of; the verdict is a failure anyway.
-/
theorem judge_of_leaves {v : Verdict} (hv : s.judge t j = .ok v)
    (he : (s.bodyRun t j).2 = .error cause) (hf : cause.Leaves failure) :
    v.events = (s.bodyRun t j).1.log.events.toList ++ [failure] ∨
      ¬ s.Hears t j ∧ LoneFailure v.events := by
  have hs : Says (s.bodyRun t j) (.log ((s.bodyRun t j).1.log.record failure)) := by
    have hx : s.bodyRun t j = ((s.bodyRun t j).1, .error cause) := by rw [← he]
    rw [hx]
    exact .stopped hf
  have hevents := TestLog.record_events (s.bodyRun t j).1.log failure
  cases s.judged t j with
  | free _ hj =>
    cases (Attempt.verdict_of_says_log hs).symm.trans (hj.symm.trans hv)
    exact .inl hevents
  | unnamed _ _ hj => cases hj.symm.trans hv
  | @unstarted limit _ ht _ hc hj =>
    cases hj.symm.trans hv
    exact .inr ⟨fun hh ↦ absurd (hc.symm.trans (hh limit ht).1) nofun, _, rfl⟩
  | @watched limit ht hn hc hj =>
    by_cases hl : (s.bodyRun t j).1.elapsed ≤ limit
    · cases (judge_in_time ht hn hc hs hl).symm.trans hv
      exact .inl hevents
    · rw [hj, Attempt.verdictWithin, Attempt.replyBy_of_overdue (.inr hl)] at hv
      cases hv
      exact .inr ⟨fun hh ↦ hl (hh limit ht).2, _, rfl⟩

theorem runTest_of_leaves (h : s.runTest t j = .ok (o, j'))
    (he : (s.bodyRun t j).2 = .error cause) (hf : cause.Leaves failure) :
    o.status = .failed ∧
      (s.Hears t j → o.events = (s.bodyRun t j).1.log.events.toList ++ [failure]) := by
  obtain ⟨v, hv, -, rfl, -⟩ := runTest_eq_ok_iff.1 h
  rcases judge_of_leaves hv he hf with hevents | ⟨hn, hl⟩
  · have hs : Status.ofEvents v.events = .failed := by rw [hevents, hf.ofEvents_append]
    exact ⟨hs, fun _ ↦ hevents⟩
  · exact ⟨hl.status, fun hh ↦ absurd hh hn⟩

end Session

namespace CommandLine

variable {c : CommandLine} {h : Host} {s : Session} {r : RunReport} {j k : Journal}
variable {result : CommandResult} {e : HarnessError} {t : TestCase} {before after : List TestCase}
variable {outcomes : List Outcome} {cause : Interruption} {failure : Event}

theorem Reports.outcome_of_leaves (hr : c.Reports h s r j)
    (hs : s.selection s.filter = before ++ t :: after)
    (hb : s.Runs before (({} : Journal).noted (s.startNotice (s.selection s.filter))) outcomes k)
    (he : (s.bodyRun t k).2 = .error cause) (hf : cause.Leaves failure) :
    ∃ o, r.outcome? t.name = some o ∧ o.status = .failed ∧
      (s.Hears t k → o.events = (s.bodyRun t k).1.log.events.toList ++ [failure]) := by
  obtain ⟨-, ha⟩ := Session.runFiltered_accounts hr.1.reachable hr.2.2
  obtain ⟨j₁, hruns, -⟩ := ha.runs
  rw [hs] at hruns hb
  obtain ⟨earlier, k₁, o, k', later, hb₁, ht, ho⟩ := hruns.split
  obtain ⟨rfl, rfl⟩ := hb₁.unique hb
  have hlen := hb₁.length
  have hi : (s.selection s.filter)[before.length]? = some t := by simp [hs]
  have hlook := ha.lookup before.length t hi
  have hoi : r.outcomes[before.length]? = some o := by simp [ho, ← hlen]
  obtain ⟨hstatus, hevents⟩ := Session.runTest_of_leaves ht he hf
  exact ⟨o, hlook.trans hoi, hstatus, hevents⟩

theorem idle_of_hint {hint : String} (hrun : c.run h = .ok result) (he : result.error = some e)
    (hh : e.hint? = some hint) : result.Idle h ∧ result.output = [] := by
  cases run_ends hrun with
  | @hindered e' _ hx =>
    have he' := hx.error
    rw [he] at he'
    cases he'
    rcases hx.output with ho | ⟨cause, rfl⟩
    · exact ⟨hx.idle, ho⟩
    · cases hh
  | listed _ hl =>
    have hn := hl.error
    rw [he] at hn
    cases hn
  | delivered _ _ _ hn =>
    rw [he] at hn
    cases hn
  | withheld _ _ _ hx =>
    rw [he] at hx
    cases hx
    cases hh

theorem error_of_tests (hrun : c.run h = .ok result) (he : result.error = some e)
    (ht : result.journal.tests ≠ 0) : ∃ cause, e = .io cause := by
  cases run_ends hrun with
  | hindered _ hx =>
    rw [hx.idle.journal] at ht
    exact absurd rfl ht
  | listed _ hl =>
    rw [hl.idle.journal] at ht
    exact absurd rfl ht
  | delivered _ _ _ hn =>
    rw [he] at hn
    cases hn
  | withheld _ _ _ hx =>
    rw [he] at hx
    cases hx
    exact ⟨_, rfl⟩

/-- A command tells of its error, with a note where there is a hint. Such an error leaves no trace
of a test: none ran, nothing was printed and no file was written. An error that comes up after a
test has run is one of input and output, without a hint. The errors that tests return, of whatever
kind, are failures of these tests. -/
theorem hint_tells_no_test_ran (hrun : c.run h = .ok result) :
    result.Tells ∧
    (∀ e hint, result.error = some e → e.hint? = some hint →
      result.Idle h ∧ result.output = []) ∧
    (∀ e, result.error = some e → result.journal.tests ≠ 0 →
      (∃ cause, e = .io cause) ∧ e.hint? = none) ∧
    ∀ s r j, c.Reports h s r j → result.report = some r ∧ result.journal = j ∧
      ∀ before t after outcomes k, s.selection s.filter = before ++ t :: after →
        s.Runs before (({} : Journal).noted (s.startNotice (s.selection s.filter))) outcomes k →
        ∀ e, (s.bodyRun t k).2 = .error (.failed (.harness e)) →
          ∃ o, r.outcome? t.name = some o ∧ o.status = .failed ∧
            (s.Hears t k → o.events = (s.bodyRun t k).1.log.events.toList ++
              [.fail ("unexpected error: " ++ e.message) none]) := by
  refine ⟨run_tells hrun, fun e hint he hh ↦ idle_of_hint hrun he hh, ?_, ?_⟩
  · intro e he ht
    obtain ⟨cause, rfl⟩ := error_of_tests hrun he ht
    exact ⟨⟨cause, rfl⟩, rfl⟩
  · intro s r j hr
    have hc := hr.concludes hrun
    refine ⟨hc.report, hc.journal, ?_⟩
    intro before t after outcomes k hs hb e he
    exact hr.outcome_of_leaves hs hb he (.failed (.harness e))

def misleading : TestCase := ⟨⟨"misleading", "sample"⟩, fun _ ↦ do
  .pass
  .stop (.failed (.harness (.testNotFound "ghost")))⟩

def seeking : CommandLine where
  filter := some "ghost"
  exact := true

def seekingSession : Session :=
  { shelteredSession none misleading with
    config := seeking.applyTo {}
    filter := .exact "ghost" }

theorem seeking_hindered : seeking.Hindered (sheltered misleading) (.testNotFound "ghost") := by
  have hc : seeking.settings (sheltered misleading) = .ok (seeking.applyTo {}, []) :=
    settings_of_no_files (sheltered_isFile misleading) rfl rfl rfl rfl
  have hs : session (sheltered misleading) (seeking.applyTo {}) = .ok seekingSession := by
    simp only [session, sheltered_registry]
    rfl
  have hn : ∀ t ∈ seekingSession.registry.entries.toList, t.name ≠ "ghost" := by
    intro t ht
    cases List.mem_singleton.1 ht
    decide
  have hp : seekingSession.prepare seekingSession.filter = .error (.testNotFound "ghost") :=
    Session.select_unknown (Registry.single_reachable misleading).indexed hn
  exact .tests ⟨_, _, hc, hs⟩ rfl hp

theorem hint_tells_no_test_ran_misleading :
    (∃ result o, (storing (some "out")).run (sheltered misleading) = .ok result ∧
      result.complaints = ["error: IO error: Is a directory (os error 21)"] ∧
      (result.report.bind fun r ↦ r.outcome? "misleading") = some o ∧
      o.events = [.pass, .fail "unexpected error: No registered test named 'ghost'" none]) ∧
    ∃ result, seeking.run (sheltered misleading) = .ok result ∧
      result.error = some (.testNotFound "ghost") ∧ result.Idle (sheltered misleading) ∧
      result.output = [] := by
  constructor
  · have hr : (storing (some "out")).Reports (sheltered misleading)
        (shelteredSession (some "out") misleading) _ _ := ⟨storing_opens _ _, rfl, rfl⟩
    obtain ⟨result, hrun, hc⟩ := run_of_reports hr
    obtain ⟨htells, -, -, hreports⟩ := hint_tells_no_test_ran hrun
    obtain ⟨hrep, -, ho⟩ := hreports _ _ _ hr
    obtain ⟨o, hlook, -, hevents⟩ := ho [] misleading [] [] _ rfl (.nil _) _ rfl
    have he := (hc.undelivered _ (sheltered_deliver_out _ _)).2
    refine ⟨result, o, hrun, ?_, ?_, hevents ?_⟩
    · rw [htells, he]
      rfl
    · rw [hrep]
      exact hlook
    · intro limit ht
      cases ht
  · obtain ⟨result, hrun, hx⟩ := run_of_hindered seeking_hindered
    obtain ⟨-, hhint, -⟩ := hint_tells_no_test_ran hrun
    obtain ⟨hi, ho⟩ := hhint _ _ hx.error rfl
    exact ⟨result, hrun, hx.error, hi, ho⟩

end CommandLine

end Conformance
