import Conformance.Attempt
import Conformance.Device.Host
import Conformance.Proofs.Severity

namespace Conformance

inductive Deed
  | record (e : Event)
  | notify (n : Notice)
  | wait (d : Duration)
  | launch (r : NdRange)

def Deed.event? : Deed → Option Event
  | record e => some e
  | notify _ | wait _ | launch _ => none

namespace Script

variable {α β : Type} {d : Device} {earlier : Array NdRange} {p : Script α} {t : Trace}
variable {deeds deeds' : List Deed} {ending ending' : Except Interruption α}

theorem map_id (p : Script α) : id <$> p = p := by
  induction p with
  | done _ | stop _ => rfl
  | record e next ih => exact congrArg (record e) ih
  | notify n next ih => exact congrArg (notify n) ih
  | wait s next ih => exact congrArg (wait s) ih
  | launch r next ih => exact congrArg (launch r) (funext ih)

theorem assoc {γ : Type} (p : Script α) (f : α → Script β) (g : β → Script γ) :
    p >>= f >>= g = p >>= fun a ↦ f a >>= g := by
  induction p with
  | done _ | stop _ => rfl
  | record e next ih => exact congrArg (record e) ih
  | notify n next ih => exact congrArg (notify n) ih
  | wait s next ih => exact congrArg (wait s) ih
  | launch r next ih => exact congrArg (launch r) (funext ih)

instance : LawfulMonad Script := .mk' Script map_id (fun _ _ ↦ rfl) assoc

/-- On the device, after the launches `earlier`, the script does these things, in this order, and
ends like this. -/
inductive Course (d : Device) : Array NdRange → Script α → List Deed → Except Interruption α → Prop
  | done (earlier : Array NdRange) (a : α) : Course d earlier (.done a) [] (.ok a)
  | stop (earlier : Array NdRange) (cause : Interruption) :
      Course d earlier (.stop cause) [] (.error cause)
  | record {earlier : Array NdRange} {e : Event} {next : Script α} {deeds : List Deed}
      {ending : Except Interruption α} : Course d earlier next deeds ending →
      Course d earlier (.record e next) (.record e :: deeds) ending
  | notify {earlier : Array NdRange} {n : Notice} {next : Script α} {deeds : List Deed}
      {ending : Except Interruption α} : Course d earlier next deeds ending →
      Course d earlier (.notify n next) (.notify n :: deeds) ending
  | wait {earlier : Array NdRange} {s : Duration} {next : Script α} {deeds : List Deed}
      {ending : Except Interruption α} : Course d earlier next deeds ending →
      Course d earlier (.wait s next) (.wait s :: deeds) ending
  | launch {earlier : Array NdRange} {r : NdRange} {next : Launch → Script α} {deeds : List Deed}
      {ending : Except Interruption α} :
      (∀ message, (d.launch earlier r).ending ≠ .crashed message) →
      Course d (earlier.push r) (next (d.launch earlier r)) deeds ending →
      Course d earlier (.launch r next) (.launch r :: deeds) ending
  | crash {earlier : Array NdRange} {r : NdRange} {next : Launch → Script α} {message : String} :
      (d.launch earlier r).ending = .crashed message →
      Course d earlier (.launch r next) [.launch r] (.error (.panicked (.text message)))

theorem exists_course (d : Device) (earlier : Array NdRange) (p : Script α) :
    ∃ deeds ending, Course d earlier p deeds ending := by
  induction p generalizing earlier with
  | done a => exact ⟨_, _, .done earlier a⟩
  | stop cause => exact ⟨_, _, .stop earlier cause⟩
  | record e next ih | notify n next ih | wait s next ih =>
    obtain ⟨deeds, ending, h⟩ := ih earlier
    exact ⟨_, _, by constructor; exact h⟩
  | launch r next ih =>
    by_cases hc : ∃ message, (d.launch earlier r).ending = .crashed message
    · obtain ⟨message, hc⟩ := hc
      exact ⟨_, _, .crash hc⟩
    · obtain ⟨deeds, ending, h⟩ := ih (d.launch earlier r) (earlier.push r)
      exact ⟨_, _, .launch (fun message hm ↦ hc ⟨message, hm⟩) h⟩

theorem Course.unique (h : Course d earlier p deeds ending)
    (h' : Course d earlier p deeds' ending') : deeds = deeds' ∧ ending = ending' := by
  induction h generalizing deeds' ending' with
  | done | stop =>
    cases h'
    exact ⟨rfl, rfl⟩
  | record _ ih | notify _ ih | wait _ ih =>
    cases h' with
    | _ h' =>
      obtain ⟨rfl, rfl⟩ := ih h'
      exact ⟨rfl, rfl⟩
  | launch hc _ ih =>
    cases h' with
    | launch _ h' =>
      obtain ⟨rfl, rfl⟩ := ih h'
      exact ⟨rfl, rfl⟩
    | crash hm => exact absurd hm (hc _)
  | crash hm =>
    cases h' with
    | launch hc _ => exact absurd hm (hc _)
    | crash hm' =>
      rw [hm] at hm'
      cases hm'
      exact ⟨rfl, rfl⟩

theorem Course.bind_of_error {cause : Interruption} (h : Course d earlier p deeds (.error cause))
    (f : α → Script β) : Course d earlier (p.bind f) deeds (.error cause) := by
  generalize he : (Except.error cause : Except Interruption α) = ending at h
  induction h with
  | done => cases he
  | stop =>
    cases he
    exact .stop _ _
  | record _ ih => exact .record (ih he)
  | notify _ ih => exact .notify (ih he)
  | wait _ ih => exact .wait (ih he)
  | launch hc _ ih => exact .launch hc (ih he)
  | crash hm =>
    cases he
    exact .crash hm

def seen : Array NdRange → List Deed → Array NdRange
  | earlier, [] => earlier
  | earlier, .launch r :: deeds => seen (earlier.push r) deeds
  | earlier, .record _ :: deeds | earlier, .notify _ :: deeds | earlier, .wait _ :: deeds =>
    seen earlier deeds

theorem Course.append {a : α} {f : α → Script β} {ending' : Except Interruption β}
    (h : Course d earlier p deeds (.ok a))
    (h' : Course d (seen earlier deeds) (f a) deeds' ending') :
    Course d earlier (p.bind f) (deeds ++ deeds') ending' := by
  generalize he : (Except.ok a : Except Interruption α) = ending at h
  induction h with
  | done =>
    cases he
    exact h'
  | stop | crash => cases he
  | record _ ih => exact .record (ih h' he)
  | notify _ ih => exact .notify (ih h' he)
  | wait _ ih => exact .wait (ih h' he)
  | launch hc _ ih => exact .launch hc (ih h' he)

theorem Course.bind_of_ok {a : α} (h : Course d earlier p deeds (.ok a)) :
    ∃ later, ∀ {f : α → Script β} {deeds' : List Deed} {ending : Except Interruption β},
      Course d later (f a) deeds' ending → Course d earlier (p.bind f) (deeds ++ deeds') ending :=
  ⟨seen earlier deeds, fun h' ↦ h.append h'⟩

/-- One script after another either stops in the first, or comes to the end of the first and goes on
with the second. -/
theorem Course.bind_cases {f : α → Script β} {ending' : Except Interruption β}
    (h : Course d earlier (p.bind f) deeds ending') :
    (∃ cause, Course d earlier p deeds (.error cause) ∧ ending' = .error cause) ∨
      ∃ a first rest, Course d earlier p first (.ok a) ∧
        Course d (seen earlier first) (f a) rest ending' ∧ deeds = first ++ rest := by
  obtain ⟨first, ending, hp⟩ := exists_course d earlier p
  cases ending with
  | error cause =>
    obtain ⟨rfl, rfl⟩ := h.unique (hp.bind_of_error f)
    exact .inl ⟨cause, hp, rfl⟩
  | ok a =>
    obtain ⟨rest, ending, hf⟩ := exists_course d (seen earlier first) (f a)
    obtain ⟨rfl, rfl⟩ := h.unique (hp.append hf)
    exact .inr ⟨a, first, rest, hp, hf, rfl⟩

def Trace.after (d : Device) (t : Trace) : Deed → Trace
  | .record e => { t with log := t.log.record e }
  | .notify n => { t with notices := t.notices.push n }
  | .wait s => { t with elapsed := t.elapsed + s }
  | .launch r => { t with
      launches := t.launches.push r
      elapsed := t.elapsed + d.launchTime t.launches r }

theorem Trace.foldl_after_events (d : Device) (t : Trace) (deeds : List Deed) :
    (deeds.foldl (after d) t).log.events.toList =
      t.log.events.toList ++ deeds.filterMap Deed.event? := by
  induction deeds generalizing t with
  | nil => simp
  | cons deed deeds ih =>
    rw [List.foldl_cons, ih]
    cases deed <;> simp [after, Deed.event?, List.filterMap_cons]

theorem Trace.foldl_after_consistent (d : Device) (h : t.log.Consistent) (deeds : List Deed) :
    (deeds.foldl (after d) t).log.Consistent := by
  induction deeds generalizing t with
  | nil => exact h
  | cons deed deeds ih =>
    refine ih ?_
    cases deed with
    | record e => exact h.record e
    | notify _ | wait _ | launch _ => exact h

/-- Running a script leaves the trace of its course. -/
theorem Course.run_eq (h : Course d earlier p deeds ending) {t : Trace}
    (ht : t.launches = earlier) : p.run d t = (deeds.foldl (Trace.after d) t, ending) := by
  induction h generalizing t with
  | done | stop => rfl
  | record _ ih | notify _ ih | wait _ ih => exact ih ht
  | @launch _ r _ _ _ hc _ ih =>
    subst ht
    simp only [run, List.foldl_cons]
    exact ih (t := t.after d (.launch r)) rfl
  | crash hm =>
    subst ht
    simp only [run, hm]
    rfl

end Script

/-- The failure on record for what stopped a body, where a payload goes quietly. -/
inductive Interruption.Leaves : Interruption → Event → Prop
  | failed (e : CaseError) : Leaves (.failed e) (.fail ("unexpected error: " ++ e.message) none)
  | text (message : String) :
      Leaves (.panicked (.text message)) (.fail ("panicked: " ++ message) none)
  | value : Leaves (.panicked .value) (.fail "panicked: non-string panic payload" none)

theorem Interruption.Leaves.ofEvents_append {cause : Interruption} {failure : Event}
    (h : cause.Leaves failure) (events : List Event) :
    Status.ofEvents (events ++ [failure]) = .failed := by
  rw [Status.ofEvents_eq_failed_iff]
  cases h <;> exact ⟨_, _, List.mem_append_right _ (List.mem_singleton_self _)⟩

namespace Attempt

open Script (Course Trace)

theorem conclude_elapsed : ∀ x, (conclude x).trace.elapsed = x.1.elapsed
  | (_, .ok ()) | (_, .error (.failed _)) | (_, .error (.panicked _)) | (_, .error .stuck) => rfl

theorem conclude_endless_iff :
    ∀ {x}, (conclude x).ending = .endless ↔ x.2 = .error .stuck
  | (_, .ok ()) | (_, .error (.failed _)) | (_, .error .stuck) => by simp [conclude]
  | (_, .error (.panicked p)) => by cases p <;> simp [conclude, AttemptEnd.ofPayload]

theorem conclude_died_iff {remains : Payload} :
    ∀ {x}, (conclude x).ending = .died remains ↔ x.2 = .error (.panicked (.bomb remains))
  | (_, .ok ()) | (_, .error (.failed _)) | (_, .error .stuck) => by simp [conclude]
  | (_, .error (.panicked p)) => by cases p <;> simp [conclude, AttemptEnd.ofPayload]

theorem conclude_of_leaves {cause : Interruption} {failure : Event} (h : cause.Leaves failure)
    (t : Trace) : (conclude (t, .error cause)).ending = .reported ∧
      (conclude (t, .error cause)).trace.log = t.log.record failure := by
  cases h <;> exact ⟨rfl, rfl⟩

variable {env : TestEnv} {t : TestCase} {earlier : Array NdRange} {deeds : List Deed}

theorem ofTest_of_course {ending : Except Interruption Unit}
    (h : Course env.device earlier (t.body env) deeds ending) :
    ofTest env t earlier =
      conclude (deeds.foldl (Trace.after env.device) (.start earlier), ending) := by
  unfold ofTest
  rw [h.run_eq rfl]

theorem start_events (d : Device) (deeds : List Deed) (earlier : Array NdRange) :
    (deeds.foldl (Trace.after d) (.start earlier)).log.events.toList =
      deeds.filterMap Deed.event? := by
  rw [Trace.foldl_after_events]
  rfl

theorem ofTest_of_error {cause : Interruption} {failure : Event}
    (h : Course env.device earlier (t.body env) deeds (.error cause)) (hf : cause.Leaves failure) :
    (ofTest env t earlier).ending = .reported ∧
      (ofTest env t earlier).events = deeds.filterMap Deed.event? ++ [failure] ∧
      Status.ofEvents (ofTest env t earlier).events = .failed ∧
      (ofTest env t earlier).trace.log.status = .failed := by
  rw [ofTest_of_course h]
  obtain ⟨he, hl⟩ :=
    conclude_of_leaves hf (deeds.foldl (Trace.after env.device) (.start earlier))
  have hv : (conclude
      (deeds.foldl (Trace.after env.device) (.start earlier), .error cause)).events =
      deeds.filterMap Deed.event? ++ [failure] := by
    rw [events, hl, TestLog.record_events, start_events]
  have hc := (Trace.foldl_after_consistent env.device (t := .start earlier)
    TestLog.empty_consistent deeds).record failure
  refine ⟨he, hv, ?_, ?_⟩
  · rw [hv, hf.ofEvents_append]
  · rw [hl, hc, TestLog.record_events, hf.ofEvents_append]

/-- An attempt shows what its body recorded up to the end, in order, and then the failure that
stopped it, if one did; nothing that comes after the end matters. -/
theorem ofTest_tells_course (env : TestEnv) (t : TestCase) (earlier : Array NdRange) :
    (∃ deeds ending, Course env.device earlier (t.body env) deeds ending ∧
      ∀ deeds' ending', Course env.device earlier (t.body env) deeds' ending' →
        deeds = deeds' ∧ ending = ending') ∧
    (∀ deeds, Course env.device earlier (t.body env) deeds (.ok ()) →
      (ofTest env t earlier).ending = .reported ∧
      (ofTest env t earlier).events = deeds.filterMap Deed.event?) ∧
    (∀ deeds cause failure, Course env.device earlier (t.body env) deeds (.error cause) →
      cause.Leaves failure →
      (ofTest env t earlier).ending = .reported ∧
      (ofTest env t earlier).events = deeds.filterMap Deed.event? ++ [failure] ∧
      Status.ofEvents (ofTest env t earlier).events = .failed ∧
      (ofTest env t earlier).trace.log.status = .failed) ∧
    (∀ {α : Type} (p : Script α) (next other : α → Script Unit) (deeds : List Deed)
      (cause : Interruption), t.body env = p.bind next →
      Course env.device earlier p deeds (.error cause) →
      ofTest env t earlier = ofTest env ⟨t.descriptor, fun _ ↦ p.bind other⟩ earlier) := by
  refine ⟨?_, ?_, ?_, ?_⟩
  · obtain ⟨deeds, ending, h⟩ := Script.exists_course env.device earlier (t.body env)
    exact ⟨deeds, ending, h, fun _ _ h' ↦ h.unique h'⟩
  · intro deeds h
    rw [ofTest_of_course h]
    exact ⟨rfl, start_events env.device deeds earlier⟩
  · intro deeds cause failure h hf
    exact ofTest_of_error h hf
  · intro α p next other deeds cause hb h
    have hn : Course env.device earlier (t.body env) deeds (.error cause) :=
      hb ▸ h.bind_of_error next
    rw [ofTest_of_course hn, ofTest_of_course (t := ⟨t.descriptor, fun _ ↦ p.bind other⟩)
      (h.bind_of_error other)]

def demanding : TestCase := ⟨⟨"demanding", "sample"⟩, fun env ↦ do
  .pass
  .skip "not sure"
  .ofDevice (env.device.require .subGroups)
  .fail "not reached"⟩

theorem ofTest_tells_course_demanding :
    (ofTest ⟨HostDevice.ofConfig {}, []⟩ demanding #[]).events = [.pass, .skip "not sure",
      .fail "unexpected error: device error: capability sub-groups is not supported" none] ∧
    Status.ofEvents (ofTest ⟨HostDevice.ofConfig {}, []⟩ demanding #[]).events = .failed := by
  obtain ⟨-, he, hs, -⟩ := (ofTest_tells_course ⟨HostDevice.ofConfig {}, []⟩ demanding #[]).2.2.1
    [.record .pass, .record (.skip "not sure")] (.failed (.device (.unsupported .subGroups))) _
    (.record (.record (.stop _ _))) (.failed _)
  exact ⟨he.trans (by decide), hs⟩

end Attempt

end Conformance
