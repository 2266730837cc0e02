import Conformance.Proofs.Fallible
import Conformance.Proofs.Selection
import Conformance.Proofs.Summary

namespace Conformance

namespace Run

variable {α β : Type} (x : Run α) (f : α → Run β) (a : α) (g : Journal → Journal) (j : Journal)

theorem pure_apply : (pure a : Run α) j = .ok (a, j) := rfl

theorem bind_apply : (x >>= f) j = (x j).bind fun p ↦ f p.1 p.2 := rfl

theorem lift_apply (y : Except Abort α) : (liftM y : Run α) j = y.map fun a ↦ (a, j) := by
  cases y <;> rfl

theorem get_apply : (get : Run Journal) j = .ok (j, j) := rfl

theorem modify_apply : (modify g : Run Unit) j = .ok ((), g j) := rfl

end Run

namespace Session

variable {s : Session} {f : TestFilter} {t : TestCase} {tests selected : List TestCase}
variable {o : Outcome} {outcomes : List Outcome} {r : RunReport} {j j' : Journal}

theorem runTest_eq (s : Session) (t : TestCase) (j : Journal) :
    s.runTest t j = (s.verdictOn t j).map fun v ↦ (v.outcome t, j.after v) := by
  unfold runTest
  simp only [Run.bind_apply, Run.get_apply, Run.modify_apply, Run.pure_apply, Run.lift_apply,
    Except.bind]
  cases s.verdictOn t j <;> rfl

def bodyRun (s : Session) (t : TestCase) (j : Journal) :
    Script.Trace × Except Interruption Unit :=
  (t.body s.env).run s.env.device (.start j.launches)

theorem ofTest_eq_conclude (s : Session) (t : TestCase) (j : Journal) :
    Attempt.ofTest s.env t j.launches = Attempt.conclude (s.bodyRun t j) := rfl

section

variable {limit : Duration} (ht : s.timeout = some limit)
include ht

theorem judge_of_null (hn : '\x00' ∈ t.name.toList) :
    s.judge t j = .error (.panicked (some Attempt.nullInNameMessage)) := by
  simp [judge, ht, Attempt.isThreadName, hn]

theorem judge_of_fault {cause : IoError} (hn : '\x00' ∉ t.name.toList)
    (hf : s.threadFault t.name = some cause) :
    s.judge t j = .ok (Attempt.unstarted cause j.launches) := by
  simp [judge, ht, Attempt.isThreadName, hn, hf]

theorem judge_of_thread (hn : '\x00' ∉ t.name.toList) (hf : s.threadFault t.name = none) :
    s.judge t j = (Attempt.conclude (s.bodyRun t j)).verdictWithin t.name limit := by
  simp [judge, ht, Attempt.isThreadName, hn, hf, ofTest_eq_conclude]

end

theorem judge_of_no_limit (ht : s.timeout = none) :
    s.judge t j = (Attempt.conclude (s.bodyRun t j)).verdict := by
  simp [judge, ht, ofTest_eq_conclude]

/-- What a judgement rests on: whether there is a limit, and then whether the test gets a thread. -/
inductive Judged (s : Session) (t : TestCase) (j : Journal) : Prop
  | free : s.timeout = none → s.judge t j = (Attempt.conclude (s.bodyRun t j)).verdict → Judged s t j
  | unnamed {limit : Duration} : s.timeout = some limit → '\x00' ∈ t.name.toList →
      s.judge t j = .error (.panicked (some Attempt.nullInNameMessage)) → Judged s t j
  | unstarted {limit : Duration} {cause : IoError} : s.timeout = some limit →
      '\x00' ∉ t.name.toList → s.threadFault t.name = some cause →
      s.judge t j = .ok (Attempt.unstarted cause j.launches) → Judged s t j
  | watched {limit : Duration} : s.timeout = some limit → '\x00' ∉ t.name.toList →
      s.threadFault t.name = none →
      s.judge t j = (Attempt.conclude (s.bodyRun t j)).verdictWithin t.name limit → Judged s t j

theorem judged (s : Session) (t : TestCase) (j : Journal) : s.Judged t j := by
  cases ht : s.timeout with
  | none => exact .free ht (judge_of_no_limit ht)
  | some limit =>
    by_cases hn : '\x00' ∈ t.name.toList
    · exact .unnamed ht hn (judge_of_null ht hn)
    · cases hf : s.threadFault t.name with
      | some cause => exact .unstarted ht hn hf (judge_of_fault ht hn hf)
      | none => exact .watched ht hn hf (judge_of_thread ht hn hf)

theorem verdictOn_eq (s : Session) (t : TestCase) (j : Journal) :
    s.verdictOn t j =
      (s.judge t j).bind fun v ↦ if j.outlasts v then .ok v else .error .collapsed := rfl

theorem verdictOn_eq_ok_iff {v : Verdict} :
    s.verdictOn t j = .ok v ↔ s.judge t j = .ok v ∧ j.outlasts v = true := by
  rw [verdictOn_eq]
  constructor
  · intro h
    obtain ⟨v', hv, h⟩ := bind_eq_ok_iff.1 h
    split at h
    · next ho =>
      cases h
      exact ⟨hv, ho⟩
    · cases h
  · rintro ⟨hv, ho⟩
    rw [hv]
    exact if_pos ho

theorem runTest_eq_ok_iff :
    s.runTest t j = .ok (o, j') ↔
      ∃ v, s.judge t j = .ok v ∧ j.outlasts v = true ∧ v.outcome t = o ∧ j.after v = j' := by
  rw [runTest_eq, map_eq_ok_iff]
  simp only [verdictOn_eq_ok_iff, Prod.mk.injEq, and_assoc]

/-- The tests run one after another, each after all that the journal tells by then. -/
inductive Runs (s : Session) : List TestCase → Journal → List Outcome → Journal → Prop
  | nil (j : Journal) : Runs s [] j [] j
  | cons {t : TestCase} {tests : List TestCase} {o : Outcome} {outcomes : List Outcome}
      {j j₁ j₂ : Journal} : s.runTest t j = .ok (o, j₁) → Runs s tests j₁ outcomes j₂ →
      Runs s (t :: tests) j (o :: outcomes) j₂

theorem runTest_descriptor (h : s.runTest t j = .ok (o, j')) : o.descriptor = t.descriptor := by
  obtain ⟨v, -, -, rfl, -⟩ := runTest_eq_ok_iff.1 h
  rfl

theorem runTest_consistent (h : s.runTest t j = .ok (o, j')) : o.Consistent := by
  obtain ⟨v, -, -, rfl, -⟩ := runTest_eq_ok_iff.1 h
  exact Outcome.ofEvents_consistent _ _ _ _

theorem runTest_tests (h : s.runTest t j = .ok (o, j')) : j'.tests = j.tests + 1 := by
  obtain ⟨v, -, -, -, rfl⟩ := runTest_eq_ok_iff.1 h
  rfl

theorem Runs.descriptors (h : s.Runs tests j outcomes j') :
    outcomes.map Outcome.descriptor = tests.map TestCase.descriptor := by
  induction h with
  | nil => rfl
  | cons ht _ ih => rw [List.map_cons, List.map_cons, runTest_descriptor ht, ih]

theorem Runs.names (h : s.Runs tests j outcomes j') :
    outcomes.map Outcome.name = tests.map TestCase.name := by
  have hd := congrArg (List.map Descriptor.name) h.descriptors
  rw [List.map_map, List.map_map] at hd
  exact hd

theorem Runs.length (h : s.Runs tests j outcomes j') : outcomes.length = tests.length := by
  have hn := congrArg List.length h.names
  rwa [List.length_map, List.length_map] at hn

theorem Runs.consistent (h : s.Runs tests j outcomes j') : ∀ o ∈ outcomes, o.Consistent := by
  induction h with
  | nil => simp
  | cons ht _ ih => exact List.forall_mem_cons.2 ⟨runTest_consistent ht, ih⟩

theorem Runs.journal_tests (h : s.Runs tests j outcomes j') :
    j'.tests = j.tests + outcomes.length := by
  induction h with
  | nil => rfl
  | cons ht _ ih =>
    rw [ih, runTest_tests ht, List.length_cons]
    omega

theorem mapM_cons_eq (s : Session) (t : TestCase) (tests : List TestCase) (j : Journal) :
    (t :: tests).mapM s.runTest j = (s.runTest t j).bind fun p ↦
      (tests.mapM s.runTest p.2).map fun q ↦ (p.1 :: q.1, q.2) := by
  simp only [List.mapM_cons, Run.bind_apply, Run.pure_apply]
  cases s.runTest t j with
  | error e => rfl
  | ok p =>
    obtain ⟨o, j₁⟩ := p
    simp only [Except.bind]
    cases tests.mapM s.runTest j₁ <;> rfl

theorem mapM_runTest_iff :
    tests.mapM s.runTest j = .ok (outcomes, j') ↔ s.Runs tests j outcomes j' := by
  induction tests generalizing outcomes j with
  | nil =>
    constructor
    · intro h
      cases h
      exact .nil _
    · rintro ⟨⟩
      rfl
  | cons t tests ih =>
    rw [mapM_cons_eq]
    constructor
    · intro h
      cases ht : s.runTest t j with
      | error a => simp [ht, Except.bind] at h
      | ok p =>
        obtain ⟨o, j₁⟩ := p
        cases hr : tests.mapM s.runTest j₁ with
        | error a => simp [ht, hr, Except.bind, Except.map] at h
        | ok q =>
          obtain ⟨outcomes, j₂⟩ := q
          simp only [ht, hr, Except.bind, Except.map, Except.ok.injEq, Prod.mk.injEq] at h
          obtain ⟨rfl, rfl⟩ := h
          exact .cons ht (ih.1 hr)
    · rintro ⟨⟩
      rename_i o outcomes j₁ ht hr
      simp [ht, ih.2 hr, Except.bind, Except.map]

theorem Runs.unique {outcomes' : List Outcome} {j₁ : Journal} (h : s.Runs tests j outcomes j')
    (h' : s.Runs tests j outcomes' j₁) : outcomes = outcomes' ∧ j' = j₁ := by
  have hm := mapM_runTest_iff.2 h
  rw [mapM_runTest_iff.2 h'] at hm
  cases hm
  exact ⟨rfl, rfl⟩

theorem Runs.split {before after : List TestCase}
    (h : s.Runs (before ++ t :: after) j outcomes j') :
    ∃ earlier k o k' later, s.Runs before j earlier k ∧ s.runTest t k = .ok (o, k') ∧
      outcomes = earlier ++ o :: later := by
  induction before generalizing j outcomes with
  | nil =>
    cases h with
    | cons ht _ => exact ⟨[], j, _, _, _, .nil j, ht, rfl⟩
  | cons t' before ih =>
    cases h with
    | cons ht hr =>
      obtain ⟨earlier, k, o, k', later, hb, hk, rfl⟩ := ih hr
      exact ⟨_ :: earlier, k, o, k', later, .cons ht hb, hk, rfl⟩

theorem mapM_error_iff :
    (∃ e, tests.mapM s.runTest j = .error e) ↔ ∃ before t after outcomes j₁,
      tests = before ++ t :: after ∧ s.Runs before j outcomes j₁ ∧
      ∃ e, s.runTest t j₁ = .error e := by
  induction tests generalizing j with
  | nil => simp [Run.pure_apply]
  | cons t tests ih =>
    rw [mapM_cons_eq]
    cases ht : s.runTest t j with
    | error e =>
      simp only [Except.bind, Except.error.injEq, exists_eq', true_iff]
      exact ⟨[], t, tests, [], j, rfl, .nil j, e, ht⟩
    | ok p =>
      obtain ⟨o, j₁⟩ := p
      have hm : (∃ e, (Except.ok (o, j₁)).bind (fun p : Outcome × Journal ↦
          (tests.mapM s.runTest p.2).map fun q ↦ (p.1 :: q.1, q.2)) = Except.error e) ↔
          ∃ e, tests.mapM s.runTest j₁ = .error e := by
        simp only [Except.bind]
        cases tests.mapM s.runTest j₁ <;> simp [Except.map]
      rw [hm, ih]
      constructor
      · rintro ⟨before, t', after, outcomes, j₂, rfl, hr, he⟩
        exact ⟨t :: before, t', after, o :: outcomes, j₂, rfl, .cons ht hr, he⟩
      · rintro ⟨before, t', after, outcomes, j₂, he, hr, e, hx⟩
        cases hr with
        | nil =>
          obtain ⟨rfl, rfl⟩ := List.cons.inj he
          rw [ht] at hx
          cases hx
        | cons h₁ hr =>
          obtain ⟨rfl, rfl⟩ := List.cons.inj he
          rw [ht] at h₁
          cases h₁
          exact ⟨_, t', after, _, j₂, rfl, hr, e, hx⟩

theorem runTests_eq (s : Session) (tests : List TestCase) (j : Journal) :
    s.runTests tests j = (tests.mapM s.runTest (j.noted (s.startNotice tests))).map fun p ↦
      (.ofOutcomes p.1, p.2.noted (finishNotice (.ofOutcomes p.1))) := by
  simp only [runTests, Run.announce, Run.bind_apply, Run.modify_apply, Run.pure_apply, Except.bind]
  cases tests.mapM s.runTest (j.noted (s.startNotice tests)) <;> rfl

theorem prepare_eq_ok_iff :
    s.prepare f = .ok selected ↔ s.env.device.validate = .ok () ∧ s.select f = .ok selected := by
  unfold prepare
  cases s.env.device.validate <;> simp

theorem runFiltered_of_prepare (h : s.prepare f = .ok selected) (j : Journal) :
    s.runFiltered f j = (s.runTests selected j).map fun p ↦ (.ok p.1, p.2) := by
  simp only [runFiltered, h, Run.bind_apply, Run.pure_apply]
  cases s.runTests selected j <;> rfl

theorem runFiltered_eq_ok_iff :
    s.runFiltered f j = .ok (.ok r, j') ↔ ∃ selected outcomes j₁, s.prepare f = .ok selected ∧
      s.Runs selected (j.noted (s.startNotice selected)) outcomes j₁ ∧
      r = .ofOutcomes outcomes ∧ j' = j₁.noted (finishNotice r) := by
  cases hp : s.prepare f with
  | error e => simp [runFiltered, hp, Run.pure_apply]
  | ok selected =>
    rw [runFiltered_of_prepare hp, runTests_eq]
    simp only [Except.ok.injEq, exists_and_left, exists_eq_left', ← mapM_runTest_iff]
    cases hm : selected.mapM s.runTest (j.noted (s.startNotice selected)) with
    | error a => simp [Except.map]
    | ok p =>
      simp only [Except.map, Except.ok.injEq, Prod.mk.injEq]
      constructor
      · rintro ⟨rfl, rfl⟩
        exact ⟨p.1, p.2, rfl, rfl, rfl⟩
      · rintro ⟨outcomes, j₁, rfl, rfl, rfl⟩
        exact ⟨rfl, rfl⟩

/-- What a report has to tell about a run of the selected tests between two journals. -/
structure Accounts (s : Session) (selected : List TestCase) (j : Journal) (r : RunReport)
    (j' : Journal) : Prop where
  /-- Each outcome is that of its test, which ran after the tests before it. -/
  runs : ∃ j₁, s.Runs selected (j.noted (s.startNotice selected)) r.outcomes j₁ ∧
    j' = j₁.noted (finishNotice r)
  descriptors : r.outcomes.map Outcome.descriptor = selected.map TestCase.descriptor
  names_nodup : (r.outcomes.map Outcome.name).Nodup
  /-- The selected names lead to their own outcomes, and no other name leads anywhere. -/
  lookup : ∀ (i : Nat) (t : TestCase), selected[i]? = some t → r.outcome? t.name = r.outcomes[i]?
  lookup_isSome : ∀ name, (r.outcome? name).isSome = true ↔ name ∈ selected.map TestCase.name
  worst : ∀ o ∈ r.outcomes, o.status.IsWorst o.events
  counts : r.passed + r.failed + r.skipped = r.total
  success : [r.success = true, r.exitCode = 0,
    ∀ o ∈ r.outcomes, ∀ message location, .fail message location ∉ o.events,
    r.failureDetails = ""].TFAE

theorem Runs.accounts {j₁ : Journal} (hn : (selected.map TestCase.name).Nodup)
    (h : s.Runs selected (j.noted (s.startNotice selected)) outcomes j₁) :
    s.Accounts selected j (.ofOutcomes outcomes)
      (j₁.noted (finishNotice (.ofOutcomes outcomes))) where
  runs := ⟨j₁, h, rfl⟩
  descriptors := h.descriptors
  names_nodup := h.names ▸ hn
  lookup i t ht := by
    have hi : (outcomes.map Outcome.name)[i]? = some t.name := by
      rw [h.names, List.getElem?_map, ht]
      rfl
    rw [List.getElem?_map, Option.map_eq_some_iff] at hi
    obtain ⟨o, ho, he⟩ := hi
    have hl : (RunReport.ofOutcomes outcomes).outcome? t.name = some o :=
      (RunReport.outcome?_eq_some_iff (h.names ▸ hn)).2 ⟨List.mem_of_getElem? ho, he⟩
    exact hl.trans ho.symm
  lookup_isSome name := by
    rw [RunReport.outcome?_isSome_iff, ← h.names]
    rfl
  worst o ho := (h.consistent o ho).isWorst
  counts := RunReport.counts_add_up outcomes
  success := RunReport.success_tfae h.consistent

theorem selection_nodup_names (h : s.registry.Indexed) (f : TestFilter) :
    ((s.selection f).map TestCase.name).Nodup :=
  (List.filter_sublist.map TestCase.name).nodup h.nodup_names

/-- Whenever a run gives a report, the report accounts for the tests of the registry that the filter
selects: for each of them and for no other, in order. -/
theorem runFiltered_accounts (hr : s.registry.Reachable) (h : s.runFiltered f j = .ok (.ok r, j')) :
    s.select f = .ok (s.selection f) ∧ s.Accounts (s.selection f) j r j' := by
  obtain ⟨selected, outcomes, j₁, hp, hruns, rfl, rfl⟩ := runFiltered_eq_ok_iff.1 h
  have hs := (prepare_eq_ok_iff.1 hp).2
  obtain ⟨rfl, -⟩ := (select_eq_ok_iff hr.indexed).1 hs
  exact ⟨hs, hruns.accounts (selection_nodup_names hr.indexed f)⟩

def onHost (r : Registry) (timeout : Option Duration) : Session where
  config := {}
  registry := r
  env := ⟨HostDevice.ofConfig {}, []⟩
  filter := .all
  exclude := []
  timeout := timeout
  threadFault _ := none

def steady : TestCase := ⟨⟨"steady", "sample"⟩, fun _ ↦ .pass⟩

def falling : TestCase := ⟨⟨"falling", "sample"⟩, fun _ ↦ do
  .skip "half way"
  .panic "enough"⟩

def steadyFallingReport : RunReport := .ofOutcomes [
  .ofEvents steady.descriptor [.pass] 0 false,
  .ofEvents falling.descriptor [.skip "half way", .fail "panicked: enough" none] 0 false]

def steadyFallingJournal : Journal where
  notices := #[(onHost (.pair steady falling) none).startNotice [steady, falling],
    Attempt.panicNotice (.text "enough"), finishNotice steadyFallingReport]
  tests := 2

theorem runFiltered_accounts_steady_falling :
    (onHost (.pair steady falling) none).runFiltered .all {} =
      .ok (.ok steadyFallingReport, steadyFallingJournal) ∧
    (onHost (.pair steady falling) none).Accounts [steady, falling] {}
      steadyFallingReport steadyFallingJournal := by
  have h : (onHost (.pair steady falling) none).runFiltered .all {} =
      .ok (.ok steadyFallingReport, steadyFallingJournal) := rfl
  exact ⟨h, (runFiltered_accounts (Registry.pair_reachable (by decide)) h).2⟩

end Session

end Conformance
