import Conformance.Proofs.Course

namespace Conformance

namespace Script

variable {α β σ : Type} {d : Device} {p : Script α} {s s' : Status} {Q R : α → Prop}
variable {f : α → Script β} {S : β → Prop}

/-- On the device the script ends with such a value, and its events come to that status. -/
def Ends (d : Device) (p : Script α) (s : Status) (Q : α → Prop) : Prop :=
  ∀ earlier, ∃ deeds a, Course d earlier p deeds (.ok a) ∧
    Status.ofEvents (deeds.filterMap Deed.event?) = s ∧ Q a

namespace Ends

theorem imp (h : Ends d p s Q) (hQ : ∀ a, Q a → R a) : Ends d p s R := by
  intro earlier
  obtain ⟨deeds, a, hc, hs, ha⟩ := h earlier
  exact ⟨deeds, a, hc, hs, hQ a ha⟩

theorem done {a : α} (h : Q a) : Ends d (.done a) .passed Q :=
  fun earlier ↦ ⟨[], a, .done earlier a, rfl, h⟩

theorem record {e : Event} {Q : Unit → Prop} (h : Q ()) :
    Ends d (.record e (.done ())) (.ofEvents [e]) Q :=
  fun earlier ↦ ⟨[.record e], (), .record (.done earlier ()), rfl, h⟩

theorem bind_max (h : Ends d p s Q) (hf : ∀ a, Q a → Ends d (f a) s' S) :
    Ends d (p >>= f) (max s s') S := by
  intro earlier
  obtain ⟨deeds, a, hc, rfl, ha⟩ := h earlier
  obtain ⟨later, hl⟩ := hc.bind_of_ok
  obtain ⟨deeds', b, hc', rfl, hb⟩ := hf a ha later
  refine ⟨deeds ++ deeds', b, hl hc', ?_, hb⟩
  rw [List.filterMap_append, Status.ofEvents_append_events]

theorem bind (h : Ends d p .passed Q) (hf : ∀ a, Q a → Ends d (f a) s S) :
    Ends d (p >>= f) s S :=
  Status.passed_max s ▸ h.bind_max hf

theorem bind_passed (h : Ends d p s Q) (hf : ∀ a, Q a → Ends d (f a) .passed S) :
    Ends d (p >>= f) s S :=
  Status.max_passed s ▸ h.bind_max hf

/-- What a script that comes to its end goes on with, when it ends with a value in the end. -/
theorem of_bind_course {earlier : Array NdRange} {deeds : List Deed} {b : β} (h : Ends d p s Q)
    (hc : Course d earlier (p >>= f) deeds (.ok b)) :
    ∃ a later deeds', Q a ∧ Course d later (f a) deeds' (.ok b) := by
  obtain ⟨deeds₁, a, hc₁, -, ha⟩ := h earlier
  obtain ⟨later, hl⟩ := hc₁.bind_of_ok
  obtain ⟨deeds₂, ending, hc₂⟩ := exists_course d later (f a)
  obtain ⟨-, rfl⟩ := hc.unique (hl hc₂)
  exact ⟨a, later, deeds₂, ha, hc₂⟩

theorem note (message : String) : Ends d (.note message) .passed fun _ ↦ True :=
  .record trivial

theorem check {condition : Bool} (h : condition = true) (message : String) :
    Ends d (.check condition message) .passed (· = true) := by
  subst h
  exact done rfl

theorem check_false {condition : Bool} (h : condition = false) (message : String) :
    Ends d (.check condition message) .failed (· = false) := by
  subst h
  exact fun earlier ↦ ⟨[.record _], false, .record (.done earlier false), rfl, rfl⟩

theorem checkEq [BEq α] [Shown α] {actual expected : α} (h : (actual == expected) = true)
    (what : String) : Ends d (.checkEq actual expected what) .passed (· = true) :=
  check h _

theorem ofWord {x : Except Overflow α} {a : α} (h : x = .ok a) :
    Ends d (.ofWord x) .passed (· = a) := by
  subst h
  exact done rfl

theorem forM {as : List σ} {f : σ → Script Unit}
    (h : ∀ a ∈ as, Ends d (f a) .passed fun _ ↦ True) :
    Ends d (as.forM f) .passed fun _ ↦ True := by
  induction as with
  | nil => exact done trivial
  | cons a as ih =>
    obtain ⟨ha, has⟩ := List.forall_mem_cons.1 h
    exact ha.bind fun _ _ ↦ ih has

theorem foldlM {as : List σ} {f : β → σ → Script β}
    (h : ∀ a ∈ as, ∀ b, Ends d (f b a) .passed fun _ ↦ True) (b : β) :
    Ends d (as.foldlM f b) .passed fun _ ↦ True := by
  induction as generalizing b with
  | nil => exact done trivial
  | cons a as ih =>
    obtain ⟨ha, has⟩ := List.forall_mem_cons.1 h
    exact (ha b).bind fun b' _ ↦ ih has b'

end Ends

end Script

namespace TestEnv

open Script (Ends)

variable {α : Type} {env : TestEnv} {r : NdRange} {l : Launch}

theorem paramOr_ends [Readable α] (env : TestEnv) (d : Device) (key : String) (default : α) :
    Ends d (env.paramOr key default) .passed
      (· = ((env.param key).bind read?).getD default) := by
  unfold paramOr
  cases env.param key with
  | none => exact .done rfl
  | some value =>
    cases hv : (read? value : Option α) with
    | some a =>
      simp only [Option.bind_some, hv]
      exact .done rfl
    | none =>
      simp only [Option.bind_some, hv]
      exact fun earlier ↦ ⟨_, default, .notify (.done earlier default), rfl, rfl⟩

theorem launch_ends (hl : ∀ earlier, env.device.launch earlier r = l)
    (hc : ∀ message, l.ending ≠ .crashed message) {fault : WorkItem → Option String}
    (hf : ∀ item ∈ l.items, fault item = none) :
    Ends env.device (env.launch r fault) .passed (· = l) := by
  intro earlier
  refine ⟨[.launch r], l, .launch (by rwa [hl]) ?_, rfl, rfl⟩
  rw [hl, List.findSome?_eq_none_iff.2 hf]
  exact .done _ _

theorem launchItems_ends (hl : ∀ earlier, env.device.launch earlier r = l)
    (hc : l.ending = .completed) {fault : WorkItem → Option String}
    (hf : ∀ item ∈ l.items, fault item = none) :
    Ends env.device (env.launchItems r fault) .passed (· = l.items) := by
  refine (launch_ends hl (by simp [hc]) hf).bind ?_
  rintro l rfl
  rw [hc]
  exact .done rfl

end TestEnv

namespace Attempt

def Gives (a : Attempt) (s : Status) : Prop :=
  a.ending = .reported ∧ Status.ofEvents a.events = s

theorem gives_of_ends {env : TestEnv} {t : TestCase} {s : Status} {Q : Unit → Prop}
    (h : Script.Ends env.device (t.body env) s Q) (earlier : Array NdRange) :
    (ofTest env t earlier).Gives s := by
  obtain ⟨deeds, u, hc, hs, -⟩ := h earlier
  rw [ofTest_of_course hc]
  refine ⟨rfl, ?_⟩
  rw [← hs, ← start_events env.device deeds earlier]
  rfl

theorem Gives.iff_eq {a : Attempt} {s s' : Status} (h : a.Gives s) : a.Gives s' ↔ s = s' := by
  constructor
  · intro h'
    exact h.2.symm.trans h'.2
  · rintro rfl
    exact h

end Attempt

end Conformance
