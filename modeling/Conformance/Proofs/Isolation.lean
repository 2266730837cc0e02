import Conformance.Proofs.Deadline

namespace Conformance

namespace Attempt

variable {x : Script.Trace × Except Interruption Unit} {a : Attempt} {v : Verdict}
variable {name : String} {limit after : Duration}

theorem verdict_error_iff : (∃ e, (conclude x).verdict = .error e) ↔
    (∃ next, x.2 = .error (.panicked (.bomb next))) ∨ x.2 = .error .stuck := by
  simp only [← conclude_died_iff, ← conclude_endless_iff, verdict]
  cases (conclude x).ending <;> simp

theorem verdictWithin_error_iff : (∃ e, (conclude x).verdictWithin name limit = .error e) ↔
    x.1.elapsed ≤ limit ∧ ∃ next, x.2 = .error (.panicked (.bomb (.bomb next))) := by
  simp only [← conclude_died_iff, ← conclude_elapsed, verdictWithin, replyBy]
  by_cases hl : (conclude x).trace.elapsed ≤ limit
  · cases he : (conclude x).ending with
    | died remains =>
      cases remains <;> simp [hl, verdictUpon, Payload.dispose, bind, Except.bind, pure,
        Except.pure]
    | reported | endless => simp [hl, verdictUpon]
  · simp [hl, verdictUpon]

theorem elapsed_of_verdict (h : (conclude x).verdict = .ok v) :
    v.elapsed = x.1.elapsed ∧ v.fuse = none := by
  unfold verdict at h
  split at h <;> cases h
  exact ⟨conclude_elapsed x, rfl⟩

theorem elapsed_of_verdictUpon {reply : Reply} (hr : reply ≠ .overdue)
    (h : (conclude x).verdictUpon name limit reply = .ok v) :
    v.elapsed = x.1.elapsed ∧ v.fuse = none := by
  cases reply with
  | log log =>
    cases h
    exact ⟨conclude_elapsed x, rfl⟩
  | overdue => exact absurd rfl hr
  | gone remains =>
    cases remains with
    | text | value =>
      cases h
      exact ⟨conclude_elapsed x, rfl⟩
    | bomb next => cases h

theorem fuse_eq_some_iff : (conclude x).fuse = some after ↔
    after = x.1.elapsed ∧ ∃ next, x.2 = .error (.panicked (.bomb (.bomb next))) := by
  simp only [← conclude_died_iff, ← conclude_elapsed x, fuse]
  cases he : (conclude x).ending with
  | reported | endless => simp
  | died remains => cases remains <;> simp [eq_comm]

end Attempt

namespace Session

variable {s : Session} {f : TestFilter} {t : TestCase} {tests selected : List TestCase}
variable {o : Outcome} {j j' : Journal} {v : Verdict} {took took' after : Duration}

/-- How long a test has its turn: until its body is over, or until the limit. -/
inductive Lasts (s : Session) (t : TestCase) (j : Journal) : Duration → Prop
  | free : s.timeout = none → Lasts s t j (s.bodyRun t j).1.elapsed
  | unstarted {limit : Duration} {cause : IoError} : s.timeout = some limit →
      s.threadFault t.name = some cause → Lasts s t j 0
  | heard {limit : Duration} : s.timeout = some limit → s.threadFault t.name = none →
      (s.bodyRun t j).2 ≠ .error .stuck → (s.bodyRun t j).1.elapsed ≤ limit →
      Lasts s t j (s.bodyRun t j).1.elapsed
  | overdue {limit : Duration} : s.timeout = some limit → s.threadFault t.name = none →
      (s.bodyRun t j).2 = .error .stuck ∨ ¬ (s.bodyRun t j).1.elapsed ≤ limit → Lasts s t j limit

/-- The test is given up, and its thread goes on to take the program down so long after the start of
the test: its body panics, with a payload whose disposal panics, and so does the disposal of what
that panic hands over. -/
structure Lights (s : Session) (t : TestCase) (j : Journal) (after : Duration) : Prop where
  given_up : ∃ limit, s.timeout = some limit ∧ ¬ (s.bodyRun t j).1.elapsed ≤ limit
  started : s.threadFault t.name = none
  payload : ∃ next, (s.bodyRun t j).2 = .error (.panicked (.bomb (.bomb next)))
  after : after = (s.bodyRun t j).1.elapsed

inductive Sinks (s : Session) (t : TestCase) (j : Journal) : Prop
  /-- Without a limit the run itself disposes of what a panic hands over. -/
  | disposal {next : Payload} : s.timeout = none →
      (s.bodyRun t j).2 = .error (.panicked (.bomb next)) → Sinks s t j
  | endless : s.timeout = none → (s.bodyRun t j).2 = .error .stuck → Sinks s t j
  /-- With a limit the test gets a thread of its name. -/
  | name {limit : Duration} : s.timeout = some limit → '\x00' ∈ t.name.toList → Sinks s t j
  /-- What a thread leaves is disposed of by the run, if the thread is over in time. -/
  | remains {limit : Duration} {next : Payload} : s.timeout = some limit →
      s.threadFault t.name = none → (s.bodyRun t j).1.elapsed ≤ limit →
      (s.bodyRun t j).2 = .error (.panicked (.bomb (.bomb next))) → Sinks s t j
  /-- The thread of a test that was given up takes the program down meanwhile. -/
  | late {fuse took : Duration} : fuse ∈ j.fuses → s.Lasts t j took → fuse ≤ j.elapsed + took →
      Sinks s t j

theorem Lasts.unique (h : s.Lasts t j took) (h' : s.Lasts t j took') : took = took' := by
  have hl {limit limit' : Duration} (h : s.timeout = some limit) (h' : s.timeout = some limit') :
      limit = limit' :=
    Option.some.inj (h.symm.trans h')
  cases h with
  | free ht =>
    cases h' with
    | free => rfl
    | unstarted ht' | heard ht' | overdue ht' => cases ht.symm.trans ht'
  | unstarted ht hf =>
    cases h' with
    | free ht' => cases ht.symm.trans ht'
    | unstarted => rfl
    | heard _ hf' | overdue _ hf' => cases hf.symm.trans hf'
  | heard ht hf hs he =>
    cases h' with
    | free | heard => rfl
    | unstarted _ hf' => cases hf.symm.trans hf'
    | overdue ht' _ ho => exact (ho.elim hs fun hn ↦ hn (hl ht ht' ▸ he)).elim
  | overdue ht hf ho =>
    cases h' with
    | free ht' => cases ht.symm.trans ht'
    | unstarted _ hf' => cases hf.symm.trans hf'
    | heard ht' _ hs he => exact (ho.elim hs fun hn ↦ hn (hl ht' ht ▸ he)).elim
    | overdue ht' => exact hl ht ht'

theorem not_lights_of_no_limit (ht : s.timeout = none) : ¬ s.Lights t j after := by
  rintro ⟨⟨limit, hl, -⟩, -⟩
  cases ht.symm.trans hl

theorem lasts_of_judge (h : s.judge t j = .ok v) :
    s.Lasts t j v.elapsed ∧ ∀ after, v.fuse = some after ↔ s.Lights t j after := by
  cases s.judged t j with
  | free ht hj =>
    obtain ⟨he, hf⟩ := Attempt.elapsed_of_verdict (hj.symm.trans h)
    rw [he, hf]
    exact ⟨.free ht, fun after ↦ iff_of_false nofun (not_lights_of_no_limit ht)⟩
  | unnamed _ _ hj => cases hj.symm.trans h
  | unstarted ht _ hc hj =>
    cases hj.symm.trans h
    refine ⟨.unstarted ht hc, fun after ↦ iff_of_false nofun fun hl ↦ ?_⟩
    cases hc.symm.trans hl.started
  | @watched limit ht _ hc hj =>
    rw [hj] at h
    by_cases ho : (s.bodyRun t j).2 = .error .stuck ∨ ¬ (s.bodyRun t j).1.elapsed ≤ limit
    · rw [Attempt.verdictWithin, Attempt.replyBy_of_overdue ho] at h
      cases h
      refine ⟨.overdue ht hc ho, fun after ↦ Attempt.fuse_eq_some_iff.trans ⟨?_, ?_⟩⟩
      · rintro ⟨ha, next, hp⟩
        refine ⟨⟨limit, ht, ho.resolve_left fun hs ↦ ?_⟩, hc, ⟨next, hp⟩, ha⟩
        cases hp.symm.trans hs
      · rintro ⟨-, -, hp, ha⟩
        exact ⟨ha, hp⟩
    · obtain ⟨hs, hl⟩ := not_or.1 ho
      rw [not_not] at hl
      obtain ⟨reply, hr⟩ := (exists_says_or_stuck (s.bodyRun t j)).resolve_right hs
      rw [Attempt.verdictWithin, Attempt.replyBy_of_says hr hl] at h
      have hreply : reply ≠ .overdue := fun he ↦ not_says_overdue (he ▸ hr)
      obtain ⟨he, hf⟩ := Attempt.elapsed_of_verdictUpon hreply h
      rw [he, hf]
      refine ⟨.heard ht hc hs hl, fun after ↦ iff_of_false nofun ?_⟩
      rintro ⟨⟨limit', ht', hn'⟩, -⟩
      cases ht.symm.trans ht'
      exact hn' hl

theorem judge_error_iff_of_thread {limit : Duration} (ht : s.timeout = some limit)
    (hn : '\x00' ∉ t.name.toList) (hf : s.threadFault t.name = none) :
    (∃ e, s.judge t j = .error e) ↔ (s.bodyRun t j).1.elapsed ≤ limit ∧
      ∃ next, (s.bodyRun t j).2 = .error (.panicked (.bomb (.bomb next))) := by
  rw [judge_of_thread ht hn hf, Attempt.verdictWithin_error_iff]

theorem sinks_of_judge_error (h : ∃ e, s.judge t j = .error e) : s.Sinks t j := by
  cases s.judged t j with
  | free ht hj =>
    rw [hj, Attempt.verdict_error_iff] at h
    rcases h with ⟨next, h⟩ | h
    · exact .disposal ht h
    · exact .endless ht h
  | unnamed ht hn _ => exact .name ht hn
  | unstarted _ _ _ hj =>
    obtain ⟨e, he⟩ := h
    cases hj.symm.trans he
  | watched ht hn hf _ =>
    obtain ⟨hl, next, h⟩ := (judge_error_iff_of_thread ht hn hf).1 h
    exact .remains ht hf hl h

theorem not_outlasts_iff :
    ¬ j.outlasts v = true ↔ ∃ fuse ∈ j.fuses, fuse ≤ j.elapsed + v.elapsed := by
  simp [Journal.outlasts]

theorem verdictOn_error_iff : (∃ e, s.verdictOn t j = .error e) ↔ s.Sinks t j := by
  rw [verdictOn_eq]
  cases hj : s.judge t j with
  | error e => exact iff_of_true ⟨e, rfl⟩ (sinks_of_judge_error ⟨e, hj⟩)
  | ok v =>
    have hlasts := (lasts_of_judge hj).1
    have hok : ¬ ∃ e, s.judge t j = .error e := by simp [hj]
    have hv : (∃ e, (if j.outlasts v then Except.ok v else .error Abort.collapsed) = .error e) ↔
        ¬ j.outlasts v = true := by
      by_cases ho : j.outlasts v = true <;> simp [ho]
    refine hv.trans (not_outlasts_iff.trans ⟨?_, ?_⟩)
    · rintro ⟨fuse, hm, hle⟩
      exact .late hm hlasts hle
    · rintro (⟨ht, h⟩ | ⟨ht, h⟩ | ⟨ht, hn⟩ | ⟨ht, hf, hl, h⟩ | ⟨hm, hl, hle⟩)
      · exact absurd (judge_of_no_limit ht ▸ Attempt.verdict_error_iff.2 (.inl ⟨_, h⟩)) hok
      · exact absurd (judge_of_no_limit ht ▸ Attempt.verdict_error_iff.2 (.inr h)) hok
      · exact absurd ⟨_, judge_of_null ht hn⟩ hok
      · by_cases hn : '\x00' ∈ t.name.toList
        · exact absurd ⟨_, judge_of_null ht hn⟩ hok
        · exact absurd ((judge_error_iff_of_thread ht hn hf).2 ⟨hl, _, h⟩) hok
      · exact ⟨_, hm, hl.unique hlasts ▸ hle⟩

theorem runTest_error_iff : (∃ e, s.runTest t j = .error e) ↔ s.Sinks t j := by
  rw [← verdictOn_error_iff, runTest_eq]
  cases s.verdictOn t j <;> simp [Except.map]

/-- What the turn of a test does to the time, and to the times at which threads that were given up
take the program down. -/
structure Ticks (s : Session) (t : TestCase) (j j' : Journal) : Prop where
  elapsed : ∃ took, s.Lasts t j took ∧ j'.elapsed = j.elapsed + took
  fuses : ∀ fuse, fuse ∈ j'.fuses ↔
    fuse ∈ j.fuses ∨ ∃ after, s.Lights t j after ∧ fuse = j.elapsed + after

theorem ticks_of_runTest (h : s.runTest t j = .ok (o, j')) : s.Ticks t j j' := by
  obtain ⟨v, hv, -, -, rfl⟩ := runTest_eq_ok_iff.1 h
  obtain ⟨hl, hf⟩ := lasts_of_judge hv
  refine ⟨⟨_, hl, rfl⟩, fun fuse ↦ List.mem_append.trans (or_congr_right ?_)⟩
  simp only [Option.mem_toList, Option.map_eq_some_iff, hf, eq_comm]

def Isolated (s : Session) (tests : List TestCase) (j : Journal) : Prop :=
  ∀ before t after outcomes j₁, tests = before ++ t :: after → s.Runs before j outcomes j₁ →
    ¬ s.Sinks t j₁

theorem not_isolated_iff :
    ¬ s.Isolated tests j ↔ ∃ e, tests.mapM s.runTest j = .error e := by
  rw [mapM_error_iff]
  simp only [Isolated, runTest_error_iff, not_forall, not_not, exists_prop]

theorem isolated_iff : s.Isolated tests j ↔ ∃ outcomes j₁, s.Runs tests j outcomes j₁ := by
  rw [← not_iff_not, not_isolated_iff]
  simp only [← mapM_runTest_iff]
  cases tests.mapM s.runTest j with
  | error e => simp
  | ok p => simpa using ⟨p.1, p.2, rfl⟩

def leaving : TestCase := ⟨⟨"leaving", "sample"⟩, fun _ ↦
  .wait (.ofSeconds 2) (.stop (.panicked (.bomb (.bomb .value))))⟩

example : (onHost (.pair leaving stalling) (some (.ofSeconds 1))).runFiltered .all {} =
    .error .collapsed := rfl

def nullNamed : TestCase := ⟨⟨"nul\x00name", "sample"⟩, fun _ ↦ .pass⟩

end Session

end Conformance
