import Conformance.Proofs.Deadline

namespace Conformance

namespace Script

variable {α : Type} {d : Device}

def Trace.own (t : Trace) : Trace := { t with launches := #[] }

theorem run_own (hd : d.Stateless) (p : Script α) (log : TestLog) (notices : Array Notice)
    (elapsed : Duration) (earlier later : Array NdRange) :
    (p.run d ⟨log, earlier, notices, elapsed⟩).1.own =
        (p.run d ⟨log, later, notices, elapsed⟩).1.own ∧
      (p.run d ⟨log, earlier, notices, elapsed⟩).2 =
        (p.run d ⟨log, later, notices, elapsed⟩).2 := by
  induction p generalizing log notices elapsed earlier later with
  | done | stop => exact ⟨rfl, rfl⟩
  | record e next ih => exact ih (log.record e) notices elapsed earlier later
  | notify n next ih => exact ih log (notices.push n) elapsed earlier later
  | wait s next ih => exact ih log notices (elapsed + s) earlier later
  | launch r next ih =>
    obtain ⟨hl, ht⟩ := hd earlier later r
    simp only [run, hl, ht]
    cases (d.launch later r).ending with
    | crashed message => exact ⟨rfl, rfl⟩
    | completed | refused e => exact ih _ log notices _ (earlier.push r) (later.push r)

end Script

namespace Attempt

def own (a : Attempt) : Attempt := { a with trace := a.trace.own }

theorem conclude_own : ∀ x, (conclude x).own = conclude (x.1.own, x.2)
  | (_, .ok ()) | (_, .error (.failed _)) | (_, .error (.panicked _)) | (_, .error .stuck) => rfl

theorem ofTest_own {env : TestEnv} (hd : env.device.Stateless) (t : TestCase)
    (earlier later : Array NdRange) : (ofTest env t earlier).own = (ofTest env t later).own := by
  obtain ⟨ht, he⟩ := Script.run_own hd (t.body env) .empty #[] 0 earlier later
  unfold ofTest Script.Trace.start
  rw [conclude_own, conclude_own, ht, he]

end Attempt

def Verdict.own (v : Verdict) : Verdict := { v with launches := #[] }

theorem Verdict.outcome_eq_of_own {v v' : Verdict} (h : v'.own = v.own) (t : TestCase) :
    v'.outcome t = v.outcome t := by
  have ho : v'.own.outcome t = v.own.outcome t := by rw [h]
  exact ho

namespace Attempt

theorem verdict_own (a : Attempt) : a.verdict.map Verdict.own = a.own.verdict := by
  have he : a.own.ending = a.ending := rfl
  unfold verdict
  rw [he]
  cases a.ending <;> rfl

theorem verdictWithin_own (a : Attempt) (name : String) (limit : Duration) :
    (a.verdictWithin name limit).map Verdict.own = a.own.verdictWithin name limit := by
  have hr : a.own.replyBy limit = a.replyBy limit := rfl
  unfold verdictWithin
  rw [hr]
  cases a.replyBy limit with
  | log log | overdue => rfl
  | gone remains => cases remains <;> rfl

end Attempt

namespace Session

variable {s s' : Session} {f f' : TestFilter} {t : TestCase} {tests : List TestCase}
variable {o o' : Outcome} {outcomes : List Outcome} {r : RunReport} {j j' j₁ k k' : Journal}

theorem Runs.turn (h : s.Runs tests j outcomes j') {i : Nat} (hi : tests[i]? = some t) :
    ∃ o k k', outcomes[i]? = some o ∧ s.runTest t k = .ok (o, k') := by
  obtain ⟨hlt, rfl⟩ := List.getElem?_eq_some_iff.1 hi
  have hs : tests = tests.take i ++ tests[i] :: tests.drop (i + 1) := by simp
  rw [hs] at h
  obtain ⟨earlier, k, o, k', later, hb, ht, rfl⟩ := h.split
  have hlen : earlier.length = i := by
    rw [hb.length, List.length_take]
    omega
  have ho : (earlier ++ o :: later)[i]? = some o := by simp [← hlen]
  exact ⟨o, k, k', ho, ht⟩

theorem runFiltered_turn (hr : s.registry.Reachable) (h : s.runFiltered f j = .ok (.ok r, j₁))
    (ht : t ∈ s.selection f) :
    ∃ o k k', r.outcome? t.name = some o ∧ s.runTest t k = .ok (o, k') := by
  obtain ⟨-, ha⟩ := runFiltered_accounts hr h
  obtain ⟨j₂, hruns, -⟩ := ha.runs
  obtain ⟨i, hi⟩ := List.getElem?_of_mem ht
  obtain ⟨o, k, k', ho, hk⟩ := hruns.turn hi
  exact ⟨o, k, k', (ha.lookup i t hi).trans ho, hk⟩

section

variable (hd : s.env.device.Stateless) (he : s'.env = s.env) (hl : s'.timeout = s.timeout)
variable (hf : s'.threadFault = s.threadFault)
include hd he hl hf

theorem judge_own (t : TestCase) (j j' : Journal) :
    (s'.judge t j').map Verdict.own = (s.judge t j).map Verdict.own := by
  have ha : (Attempt.conclude (s'.bodyRun t j')).own = (Attempt.conclude (s.bodyRun t j)).own := by
    rw [← ofTest_eq_conclude, ← ofTest_eq_conclude, he]
    exact Attempt.ofTest_own hd t j'.launches j.launches
  cases s.judged t j with
  | free ht hj =>
    rw [hj, judge_of_no_limit (hl.trans ht), Attempt.verdict_own, Attempt.verdict_own, ha]
  | unnamed ht hn hj => rw [hj, judge_of_null (hl.trans ht) hn]
  | unstarted ht hn hc hj =>
    rw [hj, judge_of_fault (hl.trans ht) hn (hf ▸ hc)]
    rfl
  | watched ht hn hc hj =>
    rw [hj, judge_of_thread (hl.trans ht) hn (hf ▸ hc), Attempt.verdictWithin_own,
      Attempt.verdictWithin_own, ha]

theorem runTest_again (j' : Journal) (hj : j'.fuses = []) (h : s.runTest t j = .ok (o, j₁)) :
    ∃ k, s'.runTest t j' = .ok (o, k) := by
  obtain ⟨v, hv, -, rfl, -⟩ := runTest_eq_ok_iff.1 h
  have hown := judge_own hd he hl hf t j j'
  rw [hv] at hown
  obtain ⟨v', hv', hvv⟩ := map_eq_ok_iff.1 hown
  have ho : j'.outlasts v' = true := by rw [Journal.outlasts, hj]; rfl
  exact ⟨_, runTest_eq_ok_iff.2 ⟨v', hv', ho, Verdict.outcome_eq_of_own hvv t, rfl⟩⟩

theorem runTest_alike (h : s.runTest t j = .ok (o, k)) (h' : s'.runTest t j' = .ok (o', k')) :
    o' = o := by
  obtain ⟨v, hv, -, rfl, -⟩ := runTest_eq_ok_iff.1 h
  obtain ⟨v', hv', -, rfl, -⟩ := runTest_eq_ok_iff.1 h'
  have hown := judge_own hd he hl hf t j j'
  rw [hv, hv'] at hown
  exact Verdict.outcome_eq_of_own (Except.ok.inj hown) t

end

theorem select_alone (hr : s.registry.Reachable) (h : t ∈ s.selection f) :
    s.select (.exact t.name) = .ok [t] := by
  obtain ⟨hmem, hx⟩ := List.mem_filter.1 h
  have hs : s.selection (.exact t.name) =
      (s.registry.entries.toList.filter fun t' ↦ t'.name == t.name).filter
        fun t' ↦ !s.isExcluded t'.name := by
    rw [List.filter_filter]
    simp only [selection, TestFilter.selects, Bool.and_comm]
  rw [filter_eq_singleton hr.indexed.nodup_names hmem] at hs
  have hk : s.isExcluded t.name = false := by
    rw [Bool.and_eq_true, Bool.not_eq_true'] at hx
    exact hx.2
  refine (select_eq_ok_iff hr.indexed).2 ⟨?_, ?_⟩
  · rw [hs]
    simp [hk]
  · rintro name ⟨⟩
    exact ⟨t, hmem, rfl⟩

end Session

end Conformance
