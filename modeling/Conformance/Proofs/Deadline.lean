import Conformance.Proofs.Run
import Conformance.Proofs.Watch

namespace Conformance

def LoneFailure (events : List Event) : Prop := ∃ message, events = [.fail message none]

theorem LoneFailure.status {events : List Event} (h : LoneFailure events) :
    Status.ofEvents events = .failed := by
  obtain ⟨message, rfl⟩ := h
  rfl

namespace Attempt

variable {x : Script.Trace × Except Interruption Unit} {a : Attempt} {name : String}
variable {limit : Duration} {remains : Payload} {log : TestLog} {v : Verdict}

theorem verdict_of_says_log (h : Says x (.log log)) :
    (conclude x).verdict = .ok ((conclude x).settled log.events.toList) := by
  cases h with
  | ended => rfl
  | @stopped t cause failure hf =>
    obtain ⟨he, hl⟩ := conclude_of_leaves hf t
    rw [verdict, he, events, hl]

theorem verdictUpon_gone (h : ∀ next, remains ≠ .bomb next) :
    a.verdictUpon name limit (.gone remains) = .ok (a.settled [.fail goneMessage none]) := by
  cases remains with
  | text | value => rfl
  | bomb next => exact absurd rfl (h next)

theorem verdictUpon_timedOut {reply : Reply} (h : a.verdictUpon name limit reply = .ok v)
    (ht : v.timedOut = true) : v = a.overdue name limit := by
  cases reply with
  | log log =>
    cases h
    cases ht
  | overdue =>
    cases h
    rfl
  | gone remains =>
    cases remains with
    | text | value =>
      cases h
      cases ht
    | bomb next => cases h

theorem verdict_timedOut (h : a.verdict = .ok v) : v.timedOut = false := by
  unfold verdict at h
  split at h <;> cases h
  rfl

end Attempt

namespace Session

variable {s : Session} {f : TestFilter} {t : TestCase} {tests : List TestCase}
variable {o : Outcome} {outcomes : List Outcome} {r : RunReport} {j j' : Journal}
variable {v : Verdict} {limit : Duration} {log : TestLog}

theorem judge_timedOut (h : s.judge t j = .ok v) (ht : v.timedOut = true) :
    LoneFailure v.events := by
  cases s.judged t j with
  | free _ hj =>
    rw [Attempt.verdict_timedOut (hj.symm.trans h)] at ht
    cases ht
  | unnamed _ _ hj => cases hj.symm.trans h
  | unstarted _ _ _ hj =>
    cases hj.symm.trans h
    cases ht
  | watched _ _ _ hj =>
    rw [Attempt.verdictUpon_timedOut (hj.symm.trans h) ht]
    exact ⟨_, rfl⟩

theorem runTest_timedOut (h : s.runTest t j = .ok (o, j')) (ht : o.timedOut = true) :
    o.status = .failed ∧ LoneFailure o.events := by
  obtain ⟨v, hv, -, rfl, -⟩ := runTest_eq_ok_iff.1 h
  have hl := judge_timedOut hv ht
  exact ⟨hl.status, hl⟩

theorem Runs.timedOut (h : s.Runs tests j outcomes j') :
    ∀ o ∈ outcomes, o.timedOut = true → o.status = .failed ∧ LoneFailure o.events := by
  induction h with
  | nil => simp
  | cons ht _ ih => exact List.forall_mem_cons.2 ⟨runTest_timedOut ht, ih⟩

def FailsAlone (s : Session) (t : TestCase) (j : Journal) (timedOut : Bool) : Prop :=
  ∃ v, s.judge t j = .ok v ∧ (v.outcome t).status = .failed ∧ v.timedOut = timedOut ∧
    LoneFailure v.events

theorem failsAlone_of_verdict (h : s.judge t j = .ok v) (hl : LoneFailure v.events) :
    s.FailsAlone t j v.timedOut :=
  ⟨v, h, hl.status, rfl, hl⟩

/-- What a limit makes of a test that runs after all that the journal tells. -/
structure KeepsLimit (s : Session) (limit : Duration) (t : TestCase) (j : Journal) : Prop where
  /-- A body that is over in time, whether it came to its end or was stopped, is judged as it would
  be without a limit. -/
  in_time : ∀ log, s.threadFault t.name = none → Says (s.bodyRun t j) (.log log) →
    (s.bodyRun t j).1.elapsed ≤ limit → s.judge t j = { s with timeout := none }.judge t j ∧
      ∃ v, s.judge t j = .ok v ∧ v.events = log.events.toList ∧ v.timedOut = false
  overdue : s.threadFault t.name = none →
    (s.bodyRun t j).2 = .error .stuck ∨ ¬ (s.bodyRun t j).1.elapsed ≤ limit → s.FailsAlone t j true
  gone : ∀ remains, s.threadFault t.name = none → Says (s.bodyRun t j) (.gone remains) →
    (s.bodyRun t j).1.elapsed ≤ limit → (∀ next, remains ≠ .bomb next) → s.FailsAlone t j false
  unstarted : ∀ cause, s.threadFault t.name = some cause → s.FailsAlone t j false
  serves : Watch.Serves s.env.device limit (.start (t.body s.env) j.launches) (s.bodyRun t j)
  /-- However the thread and the session are scheduled, what is heard is judged as in one of the
  cases above. -/
  judged : ∀ w reply, Watch.Reaches s.env.device limit (.start (t.body s.env) j.launches) w →
    w.heard = some reply →
    let upon := (Attempt.conclude (s.bodyRun t j)).verdictUpon t.name limit reply
    (∃ log, Says (s.bodyRun t j) (.log log) ∧ upon = { s with timeout := none }.judge t j ∧
      ∃ v, upon = .ok v ∧ v.events = log.events.toList ∧ v.timedOut = false) ∨
    limit ≤ w.now ∧ (∃ v, upon = .ok v ∧ v.timedOut = true ∧ LoneFailure v.events) ∨
    ∃ remains, Says (s.bodyRun t j) (.gone remains) ∧ ((∀ next, remains ≠ .bomb next) →
      ∃ v, upon = .ok v ∧ v.timedOut = false ∧ LoneFailure v.events)
  told : ∀ o j', s.runTest t j = .ok (o, j') → ∃ v, s.judge t j = .ok v ∧ o = v.outcome t

theorem judge_of_says_log (h : Says (s.bodyRun t j) (.log log)) :
    { s with timeout := none }.judge t j =
      .ok ((Attempt.conclude (s.bodyRun t j)).settled log.events.toList) :=
  (judge_of_no_limit rfl).trans (Attempt.verdict_of_says_log h)

theorem judge_in_time (ht : s.timeout = some limit) (hn : '\x00' ∉ t.name.toList)
    (hf : s.threadFault t.name = none) (h : Says (s.bodyRun t j) (.log log))
    (hl : (s.bodyRun t j).1.elapsed ≤ limit) : s.judge t j =
      .ok ((Attempt.conclude (s.bodyRun t j)).settled log.events.toList) := by
  rw [judge_of_thread ht hn hf, Attempt.verdictWithin, Attempt.replyBy_of_says h hl]
  rfl

theorem keepsLimit (ht : s.timeout = some limit) (hn : '\x00' ∉ t.name.toList) (j : Journal) :
    s.KeepsLimit limit t j where
  in_time log hf h hl := by
    have hj := judge_in_time ht hn hf h hl
    exact ⟨hj.trans (judge_of_says_log h).symm, _, hj, rfl, rfl⟩
  overdue hf ho := by
    have hv : s.judge t j =
        .ok ((Attempt.conclude (s.bodyRun t j)).overdue t.name limit) := by
      rw [judge_of_thread ht hn hf, Attempt.verdictWithin, Attempt.replyBy_of_overdue ho]
      rfl
    exact failsAlone_of_verdict hv ⟨_, rfl⟩
  gone remains hf h hl hr := by
    have hv : s.judge t j =
        .ok ((Attempt.conclude (s.bodyRun t j)).settled [.fail Attempt.goneMessage none]) := by
      rw [judge_of_thread ht hn hf, Attempt.verdictWithin, Attempt.replyBy_of_says h hl,
        Attempt.verdictUpon_gone hr]
    exact failsAlone_of_verdict hv ⟨_, rfl⟩
  unstarted cause hf := failsAlone_of_verdict (judge_of_fault ht hn hf) ⟨_, rfl⟩
  serves := Watch.start_serves _ _ _ _
  judged w reply hw hh := by
    rcases (Watch.start_serves _ _ _ _).honest w reply hw hh with ⟨hs, -⟩ | ⟨rfl, hl⟩
    · cases reply with
      | log log => exact .inl ⟨log, hs, (judge_of_says_log hs).symm, _, rfl, rfl, rfl⟩
      | gone remains =>
        exact .inr (.inr ⟨remains, hs, fun hr ↦ ⟨_, Attempt.verdictUpon_gone hr, rfl, _, rfl⟩⟩)
      | overdue => exact absurd hs not_says_overdue
    · exact .inr (.inl ⟨hl, _, rfl, rfl, _, rfl⟩)
  told o j' h := by
    obtain ⟨v, hv, -, rfl, -⟩ := runTest_eq_ok_iff.1 h
    exact ⟨v, hv, rfl⟩

/-- A limit on the time of the tests leaves those alone that are over in time. The others fail, and
wherever the report of a session says that a test timed out, a single failure is all that is told
of it. -/
theorem limit_spares_tests_in_time (ht : s.timeout = some limit) (hn : '\x00' ∉ t.name.toList)
    (j : Journal) :
    s.KeepsLimit limit t j ∧
    ∀ (s' : Session) f j r j', s'.runFiltered f j = .ok (.ok r, j') →
      ∀ o ∈ r.outcomes, o.timedOut = true → o.status = .failed ∧ LoneFailure o.events := by
  refine ⟨keepsLimit ht hn j, ?_⟩
  intro s' f j r j' h
  obtain ⟨selected, outcomes, j₁, -, hr, rfl, -⟩ := runFiltered_eq_ok_iff.1 h
  exact hr.timedOut

def stalling : TestCase := ⟨⟨"stalling", "sample"⟩, fun _ ↦ do
  .pass
  .stop .stuck⟩

theorem limit_spares_falling :
    (∃ v, (onHost (.pair stalling falling) (some (.ofSeconds 30))).judge falling {} = .ok v ∧
      v.events = [.skip "half way", .fail "panicked: enough" none] ∧ v.timedOut = false) ∧
    ∃ v, (onHost (.pair stalling falling) (some (.ofSeconds 30))).judge stalling {} = .ok v ∧
      v.timedOut = true ∧ LoneFailure v.events := by
  have hfalling := (limit_spares_tests_in_time (t := falling)
    (s := onHost (.pair stalling falling) (some (.ofSeconds 30))) rfl (by decide) {}).1
  have hstalling := (limit_spares_tests_in_time (t := stalling)
    (s := onHost (.pair stalling falling) (some (.ofSeconds 30))) rfl (by decide) {}).1
  constructor
  · exact (hfalling.in_time _ rfl (.stopped (.text "enough")) (by decide)).2
  · obtain ⟨v, hv, -, ht, hl⟩ := hstalling.overdue rfl (.inl rfl)
    exact ⟨v, hv, ht, hl⟩

end Session

end Conformance
