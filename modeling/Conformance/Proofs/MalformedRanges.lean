import Conformance.Proofs.HostSuites
import Conformance.Proofs.Passing

namespace Conformance

open Script (Passes Decided)

def Launch.refusal (e : DeviceError) : Launch := ⟨[], .refused e⟩

theorem Launch.eq_refusal_iff {l : Launch} {e : DeviceError} :
    l = refusal e ↔ l.ending = .refused e ∧ l.items.length = 0 := by
  obtain ⟨items, ending⟩ := l
  simp [refusal, and_comm]

namespace TestEnv

variable {env : TestEnv} {r : NdRange} {earlier : Array NdRange} {Q : Array NdRange → Launch → Prop}

theorem launch_eq (env : TestEnv) (r : NdRange) : env.launch r = .launch r .done := by
  have hnone : ∀ l : Launch, l.items.findSome? (fun _ ↦ (none : Option String)) = none := by
    simp
  simp only [launch, hnone]

theorem passes_launchItems {Q : Array NdRange → List WorkItem → Prop} :
    (env.launchItems r).Passes env.device earlier Q ↔
      (env.device.launch earlier r).ending = .completed ∧
        Q (earlier.push r) (env.device.launch earlier r).items := by
  rw [launchItems, launch_eq, Script.passes_bind]
  simp only [Passes]
  cases he : (env.device.launch earlier r).ending with
  | completed => simp [pure, Passes]
  | refused e => simp [Passes]
  | crashed message => simp

end TestEnv

namespace Suite.WorkGroups

variable {env : TestEnv} {d : Device} {earlier : Array NdRange} {r : NdRange} {limit : Nat}
variable {acceptable : DeviceError → Bool} {what : String} {Q : Array NdRange → Nat → Prop}

theorem passes_expectRefused {ending : LaunchEnd} {Q : Array NdRange → Unit → Prop} :
    (expectRefused what acceptable ending).Passes d earlier Q ↔
      (∃ e, acceptable e = true ∧ ending = .refused e) ∧ Q earlier () := by
  cases ending with
  | completed => simp [expectRefused, Script.passes_fail]
  | crashed message => simp [expectRefused, Script.passes_fail]
  | refused e =>
    cases ha : acceptable e with
    | true => simp [expectRefused, ha, Script.passes_note]
    | false => simp [expectRefused, ha, Script.passes_fail]

theorem passes_refuse : (refuse env what r acceptable).Passes env.device earlier Q ↔
    ∃ e, acceptable e = true ∧ (env.device.launch earlier r).ending = .refused e ∧
      Q (earlier.push r) (env.device.launch earlier r).items.length := by
  rw [refuse, TestEnv.launch_eq, Script.passes_bind]
  simp only [Passes, Script.passes_bind, passes_expectRefused, pure]
  constructor
  · rintro ⟨-, ⟨e, ha, he⟩, hq⟩
    exact ⟨e, ha, he, hq⟩
  · rintro ⟨e, ha, he, hq⟩
    refine ⟨?_, ⟨e, ha, he⟩, hq⟩
    intro message hm
    rw [he] at hm
    cases hm

/-- What the device has seen after the launch of the uneven range, which needs a limit of at least
two. -/
def afterUneven (limit : Nat) (earlier : Array NdRange) : Array NdRange :=
  if 2 ≤ limit then earlier.push ⟨limit * 2 + 1, 2⟩ else earlier

def unevenLaunch (d : Device) (earlier : Array NdRange) : Launch :=
  d.launch (earlier.push ⟨64, 0⟩) ⟨d.maxWorkGroupSize * 2 + 1, 2⟩

def oversizedLaunch (d : Device) (earlier : Array NdRange) : Launch :=
  d.launch (afterUneven d.maxWorkGroupSize (earlier.push ⟨64, 0⟩))
    ⟨(d.maxWorkGroupSize + 1) * 2, d.maxWorkGroupSize + 1⟩

def fullLaunch (d : Device) (earlier : Array NdRange) : Launch :=
  d.launch ((afterUneven d.maxWorkGroupSize (earlier.push ⟨64, 0⟩)).push
      ⟨(d.maxWorkGroupSize + 1) * 2, d.maxWorkGroupSize + 1⟩)
    ⟨d.maxWorkGroupSize * 2, d.maxWorkGroupSize⟩

/-- How the device has to answer the launches of this test. -/
structure Conforms (d : Device) (earlier : Array NdRange) : Prop where
  empty : d.launch earlier ⟨64, 0⟩ = .refusal (.invalidWorkGroup 64 0)
  uneven : 2 ≤ d.maxWorkGroupSize → ∃ globalSize localSize,
    unevenLaunch d earlier = .refusal (.invalidWorkGroup globalSize localSize)
  oversized : oversizedLaunch d earlier =
    .refusal (.workGroupTooLarge (d.maxWorkGroupSize + 1) d.maxWorkGroupSize)
  completes : (fullLaunch d earlier).ending = .completed
  runs_all : (fullLaunch d earlier).items.length = d.maxWorkGroupSize * 2

def Accepts (d : Device) (earlier : Array NdRange) : Prop :=
  (d.launch earlier ⟨64, 0⟩).ending = .completed ∨
  (2 ≤ d.maxWorkGroupSize ∧ (unevenLaunch d earlier).ending = .completed) ∨
  (oversizedLaunch d earlier).ending = .completed

theorem Conforms.not_accepts (h : Conforms d earlier) : ¬ Accepts d earlier := by
  rintro (ha | ⟨hlimit, ha⟩ | ha)
  · rw [h.empty] at ha
    cases ha
  · obtain ⟨globalSize, localSize, hl⟩ := h.uneven hlimit
    rw [hl] at ha
    cases ha
  · rw [h.oversized] at ha
    cases ha

theorem isInvalidWorkGroup_iff {e : DeviceError} : isInvalidWorkGroup e = true ↔
    ∃ globalSize localSize, e = .invalidWorkGroup globalSize localSize := by
  cases e <;> simp [isInvalidWorkGroup]

theorem passes_refuseUneven (h : 2 * (limit + 1) < wordLimit) :
    (refuseUneven env limit).Passes env.device earlier Q ↔
      (2 ≤ limit → ∃ globalSize localSize,
        (env.device.launch earlier ⟨limit * 2 + 1, 2⟩).ending =
          .refused (.invalidWorkGroup globalSize localSize)) ∧
      Q (afterUneven limit earlier) (if 2 ≤ limit then
        (env.device.launch earlier ⟨limit * 2 + 1, 2⟩).items.length else 0) := by
  unfold refuseUneven afterUneven
  split
  · next hlimit =>
    rw [Script.passes_bind, Script.passes_ofWord_of_ok (unevenRange_eq h), passes_refuse]
    constructor
    · rintro ⟨e, ha, he, hq⟩
      obtain ⟨globalSize, localSize, rfl⟩ := isInvalidWorkGroup_iff.1 ha
      exact ⟨fun _ ↦ ⟨globalSize, localSize, he⟩, hq⟩
    · rintro ⟨hu, hq⟩
      obtain ⟨globalSize, localSize, he⟩ := hu hlimit
      exact ⟨_, rfl, he, hq⟩
  · next hlimit =>
    rw [Script.passes_bind, Script.passes_note]
    simp [hlimit, pure, Passes]

def escaped (d : Device) (earlier : Array NdRange) : Nat :=
  (d.launch earlier ⟨64, 0⟩).items.length +
    (if 2 ≤ d.maxWorkGroupSize then (unevenLaunch d earlier).items.length else 0) +
    (oversizedLaunch d earlier).items.length

theorem conforms_iff : Conforms d earlier ↔
    (d.launch earlier ⟨64, 0⟩).ending = .refused (.invalidWorkGroup 64 0) ∧
    (2 ≤ d.maxWorkGroupSize → ∃ globalSize localSize,
      (unevenLaunch d earlier).ending = .refused (.invalidWorkGroup globalSize localSize)) ∧
    (oversizedLaunch d earlier).ending =
      .refused (.workGroupTooLarge (d.maxWorkGroupSize + 1) d.maxWorkGroupSize) ∧
    escaped d earlier = 0 ∧
    (fullLaunch d earlier).ending = .completed ∧
    escaped d earlier + (fullLaunch d earlier).items.length = d.maxWorkGroupSize * 2 := by
  constructor
  · intro h
    obtain ⟨hempty, hnone⟩ := Launch.eq_refusal_iff.1 h.empty
    obtain ⟨hover, hnone'⟩ := Launch.eq_refusal_iff.1 h.oversized
    -- One counter serves all refused launches, and is zero just if each of them ran nothing.
    have hescaped : escaped d earlier = 0 := by
      unfold escaped
      split
      · next hlimit =>
        obtain ⟨globalSize, localSize, hu⟩ := h.uneven hlimit
        have hnone'' := (Launch.eq_refusal_iff.1 hu).2
        omega
      · omega
    refine ⟨hempty, ?_, hover, hescaped, h.completes, ?_⟩
    · intro hlimit
      obtain ⟨globalSize, localSize, hu⟩ := h.uneven hlimit
      exact ⟨globalSize, localSize, (Launch.eq_refusal_iff.1 hu).1⟩
    · rw [hescaped, Nat.zero_add, h.runs_all]
  · rintro ⟨hempty, huneven, hover, hescaped, hdone, hall⟩
    rw [hescaped, Nat.zero_add] at hall
    unfold escaped at hescaped
    constructor
    · exact Launch.eq_refusal_iff.2 ⟨hempty, by omega⟩
    · intro hlimit
      obtain ⟨globalSize, localSize, hu⟩ := huneven hlimit
      rw [if_pos hlimit] at hescaped
      exact ⟨globalSize, localSize, Launch.eq_refusal_iff.2 ⟨hu, by omega⟩⟩
    · exact Launch.eq_refusal_iff.2 ⟨hover, by omega⟩
    · exact hdone
    · exact hall

theorem passes_body (h : 2 * (env.device.maxWorkGroupSize + 1) < wordLimit) :
    (body env).Passes env.device earlier (fun _ _ ↦ True) ↔ Conforms env.device earlier := by
  rw [body, conforms_iff]
  simp only [Script.passes_bind, passes_refuse, passes_refuseUneven h,
    Script.passes_ofWord_of_ok (oversizedRange_eq h), Script.passes_ofWord_of_ok (fullRange_eq h),
    Script.checkEq, Script.passes_check, TestEnv.passes_launchItems, pure, Passes, beq_iff_eq,
    exists_eq_left, and_true]
  exact Iff.rfl

theorem expectRefused_decided (ending : LaunchEnd) :
    (expectRefused what acceptable ending).Decided := by
  unfold expectRefused
  split
  · split
    · exact .note _
    · exact .fail _
  · exact .fail _

theorem refuse_decided (env : TestEnv) (what : String) (r : NdRange)
    (acceptable : DeviceError → Bool) : (refuse env what r acceptable).Decided := by
  rw [refuse, TestEnv.launch_eq]
  exact fun l ↦ (expectRefused_decided l.ending).bind fun _ ↦ trivial

theorem refuseUneven_decided (env : TestEnv) (limit : Nat) : (refuseUneven env limit).Decided := by
  unfold refuseUneven
  split
  · exact (Decided.ofWord _).bind fun _ ↦ refuse_decided _ _ _ _
  · exact (Decided.note _).bind fun _ ↦ trivial

theorem launchItems_decided (env : TestEnv) (r : NdRange) : (env.launchItems r).Decided := by
  rw [TestEnv.launchItems, TestEnv.launch_eq]
  intro l
  dsimp only [Script.bind]
  split
  · exact ⟨_, .failed _⟩
  · trivial

theorem body_decided (env : TestEnv) : (body env).Decided := by
  apply (refuse_decided _ _ _ _).bind
  intro empty
  apply (refuseUneven_decided _ _).bind
  intro uneven
  apply (Decided.ofWord _).bind
  intro oversized
  apply (refuse_decided _ _ _ _).bind
  intro count
  apply (Decided.check _ _).bind
  intro _
  apply (Decided.ofWord _).bind
  intro full
  apply (launchItems_decided _ _).bind
  intro items
  exact (Decided.check _ _).bind fun _ ↦ trivial

end Suite.WorkGroups

namespace Launch

variable {l : Launch} {limit : Nat} {r : NdRange}

/-- What a device with this limit makes of a range if it asks first whether the range divides into
work-groups. -/
def DividesFirst (l : Launch) (limit : Nat) (r : NdRange) : Prop :=
  if r.groups = none then l = refusal (.invalidWorkGroup r.globalSize r.localSize)
  else if limit < r.localSize then l = refusal (.workGroupTooLarge r.localSize limit)
  else l.ending = .completed ∧ r.Covered l.items

def MeasuresFirst (l : Launch) (limit : Nat) (r : NdRange) : Prop :=
  if limit < r.localSize then l = refusal (.workGroupTooLarge r.localSize limit)
  else if r.groups = none then l = refusal (.invalidWorkGroup r.globalSize r.localSize)
  else l.ending = .completed ∧ r.Covered l.items

def Checked (l : Launch) (limit : Nat) (r : NdRange) : Prop :=
  l.DividesFirst limit r ∨ l.MeasuresFirst limit r

theorem Checked.of_uneven (h : l.Checked limit r) (hg : r.groups = none)
    (hl : r.localSize ≤ limit) : l = refusal (.invalidWorkGroup r.globalSize r.localSize) := by
  have hl' : ¬ limit < r.localSize := Nat.not_lt.2 hl
  simpa [Checked, DividesFirst, MeasuresFirst, hg, hl'] using h

theorem Checked.of_oversized (h : l.Checked limit r) (hg : r.groups ≠ none)
    (hl : limit < r.localSize) : l = refusal (.workGroupTooLarge r.localSize limit) := by
  simpa [Checked, DividesFirst, MeasuresFirst, hg, hl] using h

theorem Checked.of_fits (h : l.Checked limit r) (hg : r.groups ≠ none) (hl : r.localSize ≤ limit) :
    l.ending = .completed ∧ r.Covered l.items := by
  have hl' : ¬ limit < r.localSize := Nat.not_lt.2 hl
  simpa [Checked, DividesFirst, MeasuresFirst, hg, hl'] using h

end Launch

namespace Suite.WorkGroups

variable {d : Device}

/-- The order of the two questions does not matter, since no range of this test is malformed in both
ways. -/
theorem conforms_of_checked (hpos : 0 < d.maxWorkGroupSize)
    (h : ∀ earlier r, (d.launch earlier r).Checked d.maxWorkGroupSize r)
    (earlier : Array NdRange) : Conforms d earlier := by
  have hdivides : ∀ limit, 0 < limit → NdRange.groups ⟨limit * 2, limit⟩ ≠ none := by
    intro limit hlimit
    rw [NdRange.groups_of_dvd hlimit (Nat.dvd_mul_right _ _)]
    exact Option.some_ne_none _
  have hodd : NdRange.groups ⟨d.maxWorkGroupSize * 2 + 1, 2⟩ = none := by
    simp [NdRange.groups]
  obtain ⟨hdone, hcovered⟩ := (h _ _).of_fits (hdivides _ hpos) (Nat.le_refl _)
  constructor
  · exact (h _ _).of_uneven rfl (Nat.zero_le _)
  · intro hlimit
    exact ⟨_, _, (h _ _).of_uneven hodd hlimit⟩
  · exact (h _ _).of_oversized (hdivides _ (Nat.succ_pos _)) (Nat.lt_succ_self _)
  · exact hdone
  · exact hcovered.length_eq

/-- The test passes exactly the devices that treat its ranges as they should; in which order they
look at a range does not matter. It fails a device that takes a malformed range. -/
theorem passes_iff_conforms (env : TestEnv) (earlier : Array NdRange)
    (h : 2 * (env.device.maxWorkGroupSize + 1) < wordLimit) :
    (test.Passes env earlier ↔ Conforms env.device earlier) ∧
    (0 < env.device.maxWorkGroupSize →
      (∀ earlier r, (env.device.launch earlier r).Checked env.device.maxWorkGroupSize r) →
      test.Passes env earlier) ∧
    (Accepts env.device earlier → (Attempt.ofTest env test earlier).Gives .failed) := by
  have hiff : test.Passes env earlier ↔ Conforms env.device earlier :=
    TestCase.passes_iff.trans (passes_body h)
  refine ⟨hiff, ?_, ?_⟩
  · intro hpos hchecked
    exact hiff.2 (conforms_of_checked hpos hchecked earlier)
  · intro ha
    rw [TestCase.gives_failed_iff (body_decided env), hiff]
    intro hc
    exact hc.not_accepts ha

def measuring (limit : Nat) : Device where
  name := "measuring"
  available := true
  has _ := false
  maxWorkGroupSize := limit
  subGroupSize := none
  launch _ r := if limit < r.localSize then .refusal (.workGroupTooLarge r.localSize limit)
    else HostDevice.launch limit r

def permissive (limit : Nat) : Device :=
  { measuring limit with name := "permissive", launch := fun _ _ ↦ ⟨[], .completed⟩ }

theorem measuring_checked (limit : Nat) (earlier : Array NdRange) (r : NdRange) :
    ((measuring limit).launch earlier r).Checked limit r := by
  right
  unfold Launch.MeasuresFirst measuring
  dsimp only
  split
  · rfl
  · next hl =>
    cases hg : r.groups with
    | none => simp [HostDevice.launch, hg, Launch.refusal]
    | some groups =>
      have hf : r.Fits limit := by
        simp only [NdRange.groups, Option.ite_none_left_eq_some, not_or, not_not] at hg
        exact ⟨Nat.pos_of_ne_zero hg.1.1, Nat.not_lt.1 hl, Nat.dvd_of_mod_eq_zero hg.1.2⟩
      simpa using HostDevice.launch_covers hf

theorem passes_iff_conforms_eight :
    test.Passes ⟨measuring 8, []⟩ #[] ∧
    (Attempt.ofTest ⟨permissive 8, []⟩ test #[]).Gives .failed := by
  have h : 2 * (8 + 1) < wordLimit := by decide
  obtain ⟨-, hpasses, -⟩ := passes_iff_conforms ⟨measuring 8, []⟩ #[] h
  obtain ⟨-, -, hfails⟩ := passes_iff_conforms ⟨permissive 8, []⟩ #[] h
  exact ⟨hpasses (Nat.succ_pos 7) (measuring_checked 8), hfails (.inl rfl)⟩

end Suite.WorkGroups

end Conformance
