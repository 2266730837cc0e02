import Conformance.Proofs.Ending
import Conformance.Proofs.Fallible
import Conformance.Suite.All

namespace Conformance

namespace Script

variable {α β σ : Type} {d : Device} {earlier : Array NdRange} {p : Script α} {f : α → Script β}
variable {deeds : List Deed} {ending : Except Interruption α} {r : NdRange}
variable {P : NdRange → Prop} {Q : α → Prop} {S : β → Prop}

/-- Whatever the device answers, the script launches no other ranges and ends with no other values.
It may be stopped. -/
def Within (P : NdRange → Prop) (Q : α → Prop) : Script α → Prop
  | done a => Q a
  | stop _ => True
  | record _ next | notify _ next | wait _ next => next.Within P Q
  | launch r next => P r ∧ ∀ l, (next l).Within P Q

namespace Within

theorem imp {P' : NdRange → Prop} (h : p.Within P Q) (hP : ∀ r, P r → P' r) : p.Within P' Q := by
  induction p with
  | done a => exact h
  | stop cause => trivial
  | record _ _ ih | notify _ _ ih | wait _ _ ih => exact ih h
  | launch r next ih => exact ⟨hP r h.1, fun l ↦ ih l (h.2 l)⟩

theorem bind (h : p.Within P Q) (hf : ∀ a, Q a → (f a).Within P S) : (p >>= f).Within P S := by
  induction p with
  | done a => exact hf a h
  | stop cause => trivial
  | record _ _ ih | notify _ _ ih | wait _ _ ih => exact ih h
  | launch r next ih => exact ⟨h.1, fun l ↦ ih l (h.2 l)⟩

theorem foldlM {as : List σ} {f : β → σ → Script β}
    (h : ∀ a ∈ as, ∀ b, (f b a).Within P fun _ ↦ True) (b : β) :
    (as.foldlM f b).Within P fun _ ↦ True := by
  induction as generalizing b with
  | nil => trivial
  | cons a as ih =>
    obtain ⟨ha, has⟩ := List.forall_mem_cons.1 h
    rw [List.foldlM_cons]
    exact (ha b).bind fun b' _ ↦ ih has b'

theorem forM {as : List σ} {f : σ → Script Unit} (h : ∀ a ∈ as, (f a).Within P fun _ ↦ True) :
    (as.forM f).Within P fun _ ↦ True := by
  induction as with
  | nil => trivial
  | cons a as ih =>
    obtain ⟨ha, has⟩ := List.forall_mem_cons.1 h
    exact ha.bind fun _ _ ↦ ih has

theorem check (condition : Bool) (message : String) :
    (Script.check condition message).Within P fun _ ↦ True := by
  unfold Script.check
  split <;> trivial

theorem ofWord (x : Except Overflow α) : (Script.ofWord x).Within P (x = .ok ·) := by
  cases x with
  | ok a => rfl
  | error e => trivial

end Within

theorem Course.within (h : Course d earlier p deeds ending) (hp : p.Within P Q) :
    ∀ r, .launch r ∈ deeds → P r := by
  induction h with
  | done | stop => simp
  | record _ ih | notify _ ih | wait _ ih =>
    intro r hr
    apply ih hp
    simpa using hr
  | @launch _ r' _ _ _ _ _ ih =>
    intro r hr
    obtain hr | hr := List.mem_cons.1 hr
    · cases hr
      exact hp.1
    · exact ih (hp.2 _) r hr
  | crash =>
    intro r hr
    cases List.mem_singleton.1 hr
    exact hp.1

/-- The first thing that the script does is to launch the range. -/
def Opens (r : NdRange) (p : Script α) : Prop := ∃ next, p = .launch r next

theorem Opens.bind (h : Opens r p) (f : α → Script β) : Opens r (p >>= f) := by
  obtain ⟨next, rfl⟩ := h
  exact ⟨_, rfl⟩

theorem Opens.mem (h : Opens r p) (hc : Course d earlier p deeds ending) : .launch r ∈ deeds := by
  obtain ⟨next, rfl⟩ := h
  cases hc <;> exact List.mem_cons_self

theorem seen_notices (earlier : Array NdRange) (notices : List Notice) :
    seen earlier (notices.map .notify) = earlier := by
  induction notices with
  | nil => rfl
  | cons n notices ih => exact ih

theorem seen_events (earlier : Array NdRange) (events : List Event) :
    seen earlier (events.map .record) = earlier := by
  induction events with
  | nil => rfl
  | cons e events ih => exact ih

theorem check_course (d : Device) (earlier : Array NdRange) (condition : Bool) (message : String) :
    Course d earlier (Script.check condition message)
      (if condition then [] else [.record (.fail message (some .caller))]) (.ok condition) := by
  unfold Script.check
  cases condition with
  | true => exact .done _ _
  | false => exact .record (.done _ _)

theorem ofWord_map_course (x : Except Overflow α) (g : α → β) :
    Course d earlier (ofWord x >>= fun a ↦ .done (g a)) []
      ((x.map g).mapError fun o ↦ .panicked (.text o.message)) := by
  cases x with
  | ok a => exact .done _ _
  | error o => exact .stop _ _

end Script

open Script (Course Within Opens)

namespace TestEnv

variable {α : Type} {P : NdRange → Prop}

def asked [Readable α] (env : TestEnv) (key : String) (default : α) : α :=
  ((env.param key).bind read?).getD default

theorem paramOr_course [Readable α] (env : TestEnv) (key : String) (default : α) (d : Device)
    (earlier : Array NdRange) : ∃ notices : List Notice,
      Course d earlier (env.paramOr key default) (notices.map .notify)
        (.ok (env.asked key default)) := by
  unfold paramOr asked
  cases env.param key with
  | none => exact ⟨[], .done earlier default⟩
  | some value =>
    cases hv : (read? value : Option α) with
    | some a =>
      simp only [Option.bind_some, hv]
      exact ⟨[], .done earlier a⟩
    | none =>
      simp only [Option.bind_some, hv]
      exact ⟨[_], .notify (.done earlier default)⟩

theorem paramOr_within [Readable α] (env : TestEnv) (key : String) (default : α) :
    (env.paramOr key default).Within P (· = env.asked key default) := by
  unfold paramOr asked
  cases env.param key with
  | none => rfl
  | some value =>
    cases hv : (read? value : Option α) with
    | some a =>
      simp only [Option.bind_some, hv]
      rfl
    | none =>
      simp only [Option.bind_some, hv]
      rfl

theorem launchItems_course {env : TestEnv} {r : NdRange} {fault : WorkItem → Option String}
    {earlier : Array NdRange} (he : (env.device.launch earlier r).ending = .completed)
    (hf : ∀ item ∈ (env.device.launch earlier r).items, fault item = none) :
    Course env.device earlier (env.launchItems r fault) [.launch r]
      (.ok (env.device.launch earlier r).items) := by
  have hnone : (env.device.launch earlier r).items.findSome? fault = none :=
    List.findSome?_eq_none_iff.2 hf
  have hl : Course env.device earlier (env.launch r fault) [.launch r]
      (.ok (env.device.launch earlier r)) := by
    apply Course.launch
    · intro message hm
      rw [he] at hm
      cases hm
    · rw [hnone]
      exact .done _ _
  apply hl.append
  rw [he]
  exact .done _ _

theorem launchItems_within {r : NdRange} (hr : P r) (env : TestEnv)
    (fault : WorkItem → Option String) : (env.launchItems r fault).Within P fun _ ↦ True := by
  have hl : (env.launch r fault).Within P fun _ ↦ True := by
    refine ⟨hr, fun l ↦ ?_⟩
    dsimp only
    split
    · trivial
    · split <;> trivial
  refine hl.bind fun l _ ↦ ?_
  split <;> trivial

end TestEnv

namespace Suite

/-- The range of whole work-groups for a limit of the device and two sizes that are asked for. The
size of a work-group is kept between one and the limit, and the global size is then rounded up,
which may lead out of the words. -/
def rangeOf (limit globalSize localSize : Nat) : Except Overflow NdRange :=
  let localSize := min (max localSize 1) (max limit 1)
  (mulWord (divUp (max globalSize localSize) localSize) localSize).map (⟨·, localSize⟩)

def rangeFor (env : TestEnv) : Except Overflow NdRange :=
  rangeOf env.device.maxWorkGroupSize (env.asked "global_size" defaultGlobalSize)
    (env.asked "local_size" defaultLocalSize)

variable {env : TestEnv} {r : NdRange} {P : NdRange → Prop} {d : Device}

theorem launchRange_within (env : TestEnv) :
    (launchRange env).Within P (rangeFor env = .ok ·) := by
  refine (env.paramOr_within "local_size" defaultLocalSize).bind ?_
  rintro _ rfl
  refine (env.paramOr_within "global_size" defaultGlobalSize).bind ?_
  rintro _ rfl
  refine (Within.ofWord _).bind fun globalSize hg ↦ ?_
  exact congrArg (Except.map (NdRange.mk · _)) hg

theorem exists_launchRange_course (env : TestEnv) (d : Device) (earlier : Array NdRange) :
    ∃ notices : List Notice, Course d earlier (launchRange env) (notices.map .notify)
      ((rangeFor env).mapError fun o ↦ .panicked (.text o.message)) := by
  obtain ⟨ns, hlocal⟩ := env.paramOr_course "local_size" defaultLocalSize d earlier
  obtain ⟨ns', hglobal⟩ := env.paramOr_course "global_size" defaultGlobalSize d earlier
  refine ⟨ns ++ ns', ?_⟩
  rw [List.map_append]
  refine hlocal.append ?_
  rw [Script.seen_notices, ← List.append_nil (ns'.map Deed.notify)]
  refine hglobal.append ?_
  rw [Script.seen_notices]
  exact Script.ofWord_map_course _ _

theorem launchRange_course (h : rangeFor env = .ok r) (d : Device) (earlier : Array NdRange) :
    ∃ notices : List Notice, Course d earlier (launchRange env) (notices.map .notify) (.ok r) := by
  have hc := exists_launchRange_course env d earlier
  rwa [h] at hc

theorem reserve_of_lt {slots bytes : Nat} (h : slots * bytes < memoryLimit) :
    reserve slots bytes = .done () :=
  if_neg (Nat.not_le.2 h)

theorem reserve_within (slots bytes : Nat) : (reserve slots bytes).Within P fun _ ↦ True := by
  unfold reserve
  split <;> trivial

/-- Whatever the device answers, the test launches the range and no other one. It does launch it,
if there is such a range and memory has room for the eight bytes that the first result takes of each
item. -/
def LaunchesOver (env : TestEnv) (t : TestCase) (range : Except Overflow NdRange) : Prop :=
  ∀ earlier deeds ending, Course env.device earlier (t.body env) deeds ending →
    (∀ r, .launch r ∈ deeds → range = .ok r) ∧
    ∀ r, range = .ok r → r.globalSize * 8 < memoryLimit → .launch r ∈ deeds

theorem LaunchesOver.unique {t : TestCase} {range : Except Overflow NdRange}
    (h : LaunchesOver env t (.ok r)) (hm : r.globalSize * 8 < memoryLimit)
    (h' : LaunchesOver env t range) : range = .ok r := by
  obtain ⟨deeds, ending, hc⟩ := Script.exists_course env.device #[] (t.body env)
  exact (h' _ _ _ hc).1 r ((h _ _ _ hc).2 r rfl hm)

theorem launchesOver_of_bind {t : TestCase} {f : NdRange → Script Unit}
    (ht : t.body env = launchRange env >>= f)
    (hw : ∀ r, (f r).Within (· = r) fun _ ↦ True)
    (ho : ∀ r, r.globalSize * 8 < memoryLimit → Opens r (f r)) :
    LaunchesOver env t (rangeFor env) := by
  intro earlier deeds ending hc
  rw [ht] at hc
  constructor
  · refine hc.within (Q := fun _ ↦ True) ?_
    refine (launchRange_within env).bind fun r hr ↦ ?_
    exact (hw r).imp fun _ h ↦ h ▸ hr
  · intro r hr hm
    obtain ⟨notices, hn⟩ := launchRange_course hr env.device earlier
    obtain ⟨cause, he, -⟩ | ⟨r', first, rest, hf, hrest, rfl⟩ := hc.bind_cases
    · cases (hn.unique he).2
    · cases (hn.unique hf).2
      exact List.mem_append_right _ ((ho r hm).mem hrest)

theorem Copy.checkType_within (env : TestEnv) (r : NdRange) (checked : Nat) (v : Coverage.Visit) :
    (checkType env r checked v).Within (· = r) fun _ ↦ True := by
  unfold checkType
  split
  · exact trivial
  · refine (reserve_within _ _).bind fun _ _ ↦ ?_
    refine (TestEnv.launchItems_within (P := (· = r)) rfl env _).bind fun items _ ↦ ?_
    refine (Within.ofWord _).bind fun expected _ ↦ ?_
    refine (Within.check _ _).bind fun _ _ ↦ ?_
    exact (Within.check _ _).bind fun _ _ ↦ trivial

theorem Reduction.checkType_within (env : TestEnv) (r : NdRange) (v : Coverage.Visit) :
    (checkType env r v).Within (· = r) fun _ ↦ True := by
  unfold checkType
  split
  · exact trivial
  · refine (reserve_within _ _).bind fun _ _ ↦ ?_
    refine (TestEnv.launchItems_within (P := (· = r)) rfl env _).bind fun items _ ↦ ?_
    refine (Within.ofWord _).bind fun samples _ ↦ ?_
    exact (Within.check _ _).bind fun _ _ ↦ trivial

theorem Copy.launchesOver (env : TestEnv) : LaunchesOver env test (rangeFor env) := by
  apply launchesOver_of_bind (f := fun r ↦ do
    let checked ← Coverage.TypePack.scalars.visitsWithVectors.foldlM (checkType env r) 0
    .note ("checked " ++ shown checked ++ " types")) rfl
  · intro r
    refine (Within.foldlM (fun v _ checked ↦ ?_) 0).bind fun _ _ ↦ trivial
    exact checkType_within env r checked v
  · intro r hr
    refine Opens.bind (Opens.bind (p := checkType env r 0 ⟨.scalar .bool, "bool"⟩) ?_ _) _
    have hl : lacking? env.device (Coverage.DataType.scalar .bool).requires = none := rfl
    have hb : slotBytes (.scalar .bool) = 8 := rfl
    unfold checkType
    simp only [hl, hb, reserve_of_lt hr]
    exact ⟨_, rfl⟩

theorem Reduction.launchesOver (env : TestEnv) : LaunchesOver env test (rangeFor env) := by
  apply launchesOver_of_bind
    (f := fun r ↦ Coverage.TypePack.scalars.visits.forM (checkType env r)) rfl
  · intro r
    exact Within.forM fun v _ ↦ checkType_within env r v
  · intro r hr
    have hgroups : r.globalSize / r.localSize * 8 < memoryLimit :=
      Nat.lt_of_le_of_lt (Nat.mul_le_mul_right 8 (Nat.div_le_self _ _)) hr
    refine Opens.bind (p := checkType env r ⟨.scalar .bool, "bool"⟩) ?_ _
    have hl : lacking? env.device (Coverage.DataType.scalar .bool).requires = none := rfl
    have hb : slotBytes (.scalar .bool) = 8 := rfl
    unfold checkType
    simp only [hl, hb, reserve_of_lt hgroups]
    exact ⟨_, rfl⟩

end Suite

end Conformance
