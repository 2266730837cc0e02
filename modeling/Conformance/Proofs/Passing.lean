import Conformance.Proofs.Ending

namespace Conformance

theorem Status.ofEvents_cons_eq_passed_iff {e : Event} {events : List Event} :
    ofEvents (e :: events) = .passed ↔ e.severity = .passed ∧ ofEvents events = .passed := by
  have hone : ofEvents [e] = e.severity := passed_max e.severity
  rw [← List.singleton_append, ofEvents_append_events, hone]
  cases e.severity <;> cases ofEvents events <;> decide

namespace Script

variable {α β : Type} {d : Device} {earlier : Array NdRange} {p : Script α} {f : α → Script β}
variable {deeds : List Deed} {ending : Except Interruption α} {a : α}
variable {Q : Array NdRange → α → Prop} {R : Array NdRange → β → Prop}

/-- On the device, after the launches `earlier`, the script comes to an end and records nothing
worse than notes; `Q` holds of the launches by then and of the value. -/
def Passes (d : Device) : Script α → Array NdRange → (Array NdRange → α → Prop) → Prop
  | done a, earlier, Q => Q earlier a
  | stop _, _, _ => False
  | record e next, earlier, Q => e.severity = .passed ∧ next.Passes d earlier Q
  | notify _ next, earlier, Q | wait _ next, earlier, Q => next.Passes d earlier Q
  | launch r next, earlier, Q =>
    (∀ message, (d.launch earlier r).ending ≠ .crashed message) ∧
      (next (d.launch earlier r)).Passes d (earlier.push r) Q

theorem passes_bind : (p >>= f).Passes d earlier R ↔
    p.Passes d earlier fun later a ↦ (f a).Passes d later R := by
  induction p generalizing earlier with
  | done a => exact Iff.rfl
  | stop cause => exact Iff.rfl
  | record e next ih => exact and_congr_right fun _ ↦ ih
  | notify _ _ ih | wait _ _ ih => exact ih
  | launch r next ih => exact and_congr_right fun _ ↦ ih _

theorem passes_note {message : String} {Q : Array NdRange → Unit → Prop} :
    (note message).Passes d earlier Q ↔ Q earlier () := by
  simp [note, Passes, Event.severity]

theorem passes_fail {message : String} {Q : Array NdRange → Unit → Prop} :
    ¬ (fail message).Passes d earlier Q := by
  simp [fail, Passes, Event.severity]

theorem passes_check {condition : Bool} {message : String} {Q : Array NdRange → Bool → Prop} :
    (check condition message).Passes d earlier Q ↔ condition = true ∧ Q earlier true := by
  cases condition <;> simp [check, Passes, Event.severity]

theorem passes_ofWord_of_ok {x : Except Overflow α} (h : x = .ok a) :
    (ofWord x).Passes d earlier Q ↔ Q earlier a := by
  subst h
  exact Iff.rfl

theorem Passes.exists_course (h : p.Passes d earlier Q) : ∃ deeds a,
    Course d earlier p deeds (.ok a) ∧ Status.ofEvents (deeds.filterMap Deed.event?) = .passed ∧
      Q (seen earlier deeds) a := by
  induction p generalizing earlier with
  | done a => exact ⟨[], a, .done earlier a, rfl, h⟩
  | stop cause => exact h.elim
  | record e next ih =>
    obtain ⟨deeds, a, hc, hs, ha⟩ := ih h.2
    refine ⟨_, a, .record hc, ?_, ha⟩
    exact Status.ofEvents_cons_eq_passed_iff.2 ⟨h.1, hs⟩
  | notify n next ih =>
    obtain ⟨deeds, a, hc, hs, ha⟩ := ih h
    exact ⟨_, a, .notify hc, hs, ha⟩
  | wait s next ih =>
    obtain ⟨deeds, a, hc, hs, ha⟩ := ih h
    exact ⟨_, a, .wait hc, hs, ha⟩
  | launch r next ih =>
    obtain ⟨deeds, a, hc, hs, ha⟩ := ih _ h.2
    exact ⟨_, a, .launch h.1 hc, hs, ha⟩

theorem Course.passes (h : Course d earlier p deeds ending) (he : ending = .ok a)
    (hs : Status.ofEvents (deeds.filterMap Deed.event?) = .passed)
    (ha : Q (seen earlier deeds) a) : p.Passes d earlier Q := by
  induction h with
  | done =>
    cases he
    exact ha
  | stop | crash => cases he
  | record _ ih =>
    obtain ⟨hsev, hs⟩ := Status.ofEvents_cons_eq_passed_iff.1 hs
    exact ⟨hsev, ih he hs ha⟩
  | notify _ ih | wait _ ih => exact ih he hs ha
  | launch hc _ ih => exact ⟨hc, ih he hs ha⟩

/-- Whatever the device answers, the script skips nothing, and what stops it is on record as a
failure. -/
def Decided : Script α → Prop
  | done _ => True
  | stop cause => ∃ failure, cause.Leaves failure
  | record e next => e.severity ≠ .skipped ∧ next.Decided
  | notify _ next | wait _ next => next.Decided
  | launch _ next => ∀ l, (next l).Decided

namespace Decided

theorem bind (h : p.Decided) (hf : ∀ a, (f a).Decided) : (p >>= f).Decided := by
  induction p with
  | done a => exact hf a
  | stop cause => exact h
  | record e next ih => exact ⟨h.1, ih h.2⟩
  | notify _ _ ih | wait _ _ ih => exact ih h
  | launch r next ih => exact fun l ↦ ih l (h l)

theorem note (message : String) : (Script.note message).Decided := by
  simp [Script.note, Decided, Event.severity]

theorem fail (message : String) : (Script.fail message).Decided := by
  simp [Script.fail, Decided, Event.severity]

theorem check (condition : Bool) (message : String) : (Script.check condition message).Decided := by
  cases condition <;> simp [Script.check, Decided, Event.severity]

theorem ofWord (x : Except Overflow α) : (Script.ofWord x).Decided := by
  cases x with
  | ok a => trivial
  | error e => exact ⟨_, .text _⟩

end Decided

theorem Course.decided (h : Course d earlier p deeds ending) (hp : p.Decided) :
    (∀ e ∈ deeds.filterMap Deed.event?, e.severity ≠ .skipped) ∧
      ∀ cause, ending = .error cause → ∃ failure, cause.Leaves failure := by
  induction h with
  | done => simp
  | stop =>
    constructor
    · simp
    · rintro cause ⟨⟩
      exact hp
  | record _ ih =>
    obtain ⟨he, hc⟩ := ih hp.2
    refine ⟨?_, hc⟩
    intro e hm
    obtain rfl | hm := List.mem_cons.1 hm
    · exact hp.1
    · exact he e hm
  | notify _ ih | wait _ ih => exact ih hp
  | launch _ _ ih => exact ih (hp _)
  | crash =>
    constructor
    · intro e hm
      cases hm
    · rintro cause ⟨⟩
      exact ⟨_, .text _⟩

end Script

theorem Status.ofEvents_of_no_skip {events : List Event}
    (h : ∀ e ∈ events, e.severity ≠ .skipped) :
    ofEvents events = .passed ∨ ofEvents events = .failed := by
  obtain hp | ⟨e, he, hs⟩ := (ofEvents_isWorst events).attained
  · exact .inl hp
  · have hne := h e he
    rw [hs] at hne
    cases hx : ofEvents events with
    | passed => exact .inl rfl
    | failed => exact .inr rfl
    | skipped => exact absurd hx hne

namespace TestCase

variable {t : TestCase} {env : TestEnv} {earlier : Array NdRange} {deeds : List Deed}
variable {ending : Except Interruption Unit}

open Script (Course)

def Passes (t : TestCase) (env : TestEnv) (earlier : Array NdRange) : Prop :=
  ∃ trace, (t.body env).run env.device (.start earlier) = (trace, .ok ()) ∧
    trace.log.status = .passed

theorem passes_iff_of_course (h : Course env.device earlier (t.body env) deeds ending) :
    t.Passes env earlier ↔
      ending = .ok () ∧ Status.ofEvents (deeds.filterMap Deed.event?) = .passed := by
  have hs := Script.Trace.foldl_after_consistent env.device (t := .start earlier)
    TestLog.empty_consistent deeds
  rw [TestLog.Consistent, Attempt.start_events] at hs
  rw [Passes, h.run_eq rfl]
  constructor
  · rintro ⟨trace, hx, hp⟩
    obtain ⟨rfl, rfl⟩ := Prod.mk.inj hx
    exact ⟨rfl, hs.symm.trans hp⟩
  · rintro ⟨rfl, hp⟩
    exact ⟨_, rfl, hs.trans hp⟩

theorem passes_iff :
    t.Passes env earlier ↔ (t.body env).Passes env.device earlier fun _ _ ↦ True := by
  constructor
  · intro h
    obtain ⟨deeds, ending, hc⟩ := Script.exists_course env.device earlier (t.body env)
    obtain ⟨he, hs⟩ := (passes_iff_of_course hc).1 h
    exact hc.passes he hs trivial
  · intro h
    obtain ⟨deeds, _, hc, hs, -⟩ := h.exists_course
    exact (passes_iff_of_course hc).2 ⟨rfl, hs⟩

theorem passes_of_ends {Q : Unit → Prop}
    (h : Script.Ends env.device (t.body env) .passed Q) (earlier : Array NdRange) :
    t.Passes env earlier := by
  obtain ⟨deeds, _, hc, hs, -⟩ := h earlier
  exact (passes_iff_of_course hc).2 ⟨rfl, hs⟩

theorem gives_failed_iff (h : (t.body env).Decided) :
    (Attempt.ofTest env t earlier).Gives .failed ↔ ¬ t.Passes env earlier := by
  obtain ⟨deeds, ending, hc⟩ := Script.exists_course env.device earlier (t.body env)
  obtain ⟨hskip, hstop⟩ := hc.decided h
  rw [passes_iff_of_course hc]
  cases ending with
  | ok u =>
    have hg : (Attempt.ofTest env t earlier).Gives
        (.ofEvents (deeds.filterMap Deed.event?)) := by
      rw [Attempt.ofTest_of_course hc, ← Attempt.start_events env.device deeds earlier]
      exact ⟨rfl, rfl⟩
    rw [hg.iff_eq]
    obtain hs | hs := Status.ofEvents_of_no_skip hskip <;> simp [hs]
  | error cause =>
    obtain ⟨failure, hf⟩ := hstop cause rfl
    obtain ⟨hreported, -, hs, -⟩ := Attempt.ofTest_of_error hc hf
    have hg : (Attempt.ofTest env t earlier).Gives .failed := ⟨hreported, hs⟩
    simp [hg]

end TestCase

end Conformance
