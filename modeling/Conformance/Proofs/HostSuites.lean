import Conformance.Proofs.DataParallel
import Conformance.Proofs.Ending
import Conformance.Suite.All

namespace Conformance

open Script (Ends Course Trace)

/-- The device runs or refuses every range as a host of its limit does. -/
def Device.LaunchesAsHost (d : Device) : Prop :=
  ∀ earlier r, d.launch earlier r = HostDevice.launch d.maxWorkGroupSize r

/-- The device grants what it advertises and nothing else, and has sub-groups if they have a
width. -/
structure Device.Honest (d : Device) : Prop where
  require_eq : ∀ c, d.require c = if d.has c then .ok () else .error (.unsupported c)
  has_subGroups : d.has .subGroups = d.subGroupSize.isSome

namespace Suite

variable {env : TestEnv} {r : NdRange}

theorem launchItems_ends (hl : env.device.LaunchesAsHost)
    (h : r.Fits env.device.maxWorkGroupSize) {fault : WorkItem → Option String}
    (hf : ∀ items, r.Covered items → ∀ item ∈ items, fault item = none) :
    Ends env.device
      (env.launchItems r fault) .passed r.Covered := by
  obtain ⟨he, hc⟩ := HostDevice.launch_covers h
  refine (TestEnv.launchItems_ends (fun earlier ↦ hl earlier r) he (hf _ hc)).imp ?_
  rintro items rfl
  exact hc

theorem launch_refused_ends {e : DeviceError} (hl : env.device.LaunchesAsHost)
    (h : HostDevice.launch env.device.maxWorkGroupSize r = ⟨[], .refused e⟩) :
    Ends env.device (env.launch r)
      .passed (· = ⟨[], .refused e⟩) := by
  exact TestEnv.launch_ends (fun earlier ↦ (hl earlier r).trans h) nofun (by simp)

theorem reserve_ends {d : Device} {slots bytes : Nat} (h : slots * bytes < memoryLimit) :
    Ends d (reserve slots bytes) .passed fun _ ↦ True := by
  rw [reserve, if_neg (Nat.not_le.2 h)]
  exact .done trivial

theorem mulWord_eq_ok {a b n : Nat} (h : mulWord a b = .ok n) : n = a * b := by
  unfold mulWord at h
  split at h
  · exact (Except.ok.inj h).symm
  · cases h

theorem launchRange_ends {env : TestEnv} {t : Trace}
    (h : ((launchRange env).run env.device t).2 = .ok r) :
    Ends env.device (launchRange env) .passed (· = r) ∧
      r.Fits (max env.device.maxWorkGroupSize 1) := by
  obtain ⟨deeds, ending, hc⟩ := Script.exists_course env.device t.launches (launchRange env)
  rw [hc.run_eq rfl] at h
  obtain rfl : ending = .ok r := h
  have hlocal := TestEnv.paramOr_ends env env.device "local_size" defaultLocalSize
  have hglobal := TestEnv.paramOr_ends env env.device "global_size" defaultGlobalSize
  obtain ⟨_, _, _, rfl, hc⟩ := hlocal.of_bind_course hc
  obtain ⟨_, _, _, rfl, hc⟩ := hglobal.of_bind_course hc
  -- Both parameters always have a value; only the product of the sizes may not fit a word.
  generalize hx : mulWord _ _ = x at hc
  cases x with
  | error e => cases hc
  | ok n =>
    cases hc
    refine ⟨hlocal.bind ?_, ?_⟩
    · rintro _ rfl
      refine hglobal.bind ?_
      rintro _ rfl
      exact (Ends.ofWord hx).bind fun _ h ↦ h ▸ .done rfl
    · constructor
      · dsimp only
        omega
      · dsimp only
        omega
      · rw [mulWord_eq_ok hx]
        exact Nat.dvd_mul_left _ _

theorem samples_ends {d : Device} {t : Coverage.DataType} {n : Nat}
    (h : n + t.reach ≤ wordLimit) :
    Ends d (.ofWord ((List.range n).mapM t.sample)) .passed (· = (List.range n).map t.value) := by
  refine .ofWord (mapM_eq_ok fun i hi ↦ t.sample_eq_value ?_)
  have hlt := List.mem_range.1 hi
  omega

section

variable (hl : env.device.LaunchesAsHost) (h : r.Fits env.device.maxWorkGroupSize)
variable (hn : r.globalSize ≤ 2 ^ 21)
include hl h hn

theorem Copy.checkType_ends {v : Coverage.Visit} (hv : v.type.reach ≤ 15)
    (hroom : HasRoom r v.type) (checked : Nat) :
    Ends env.device (checkType env r checked v) .passed fun _ ↦ True := by
  have hw : r.globalSize + v.type.reach ≤ wordLimit := by
    rw [wordLimit]
    omega
  unfold checkType
  split
  · exact (Ends.note _).bind fun _ _ ↦ .done trivial
  · have hfault : ∀ items, r.Covered items → ∀ item ∈ items,
        fault v.type r.globalSize item = none := by
      intro items hc item hi
      have hlt := hc.lt hi
      exact fault_eq_none hlt (by omega)
    refine (reserve_ends hroom).bind fun _ _ ↦ ?_
    refine (launchItems_ends hl h hfault).bind fun items hc ↦ ?_
    refine (samples_ends hw).bind ?_
    rintro _ rfl
    have htells := Slots.ofItems_tells (fun _ hi ↦ hc.lt hi) hw
    refine (Ends.check ?_ _).bind fun _ _ ↦ (Ends.check ?_ _).bind fun _ _ ↦ .done trivial
    · rw [htells.wrong_eq, lost_of_covered hc]
      rfl
    · rw [htells.repeats_eq, repeated_of_covered hc]
      rfl

theorem Reduction.checkType_ends {v : Coverage.Visit}
    (hv : v.type ∈ Coverage.Scalar.all.map Coverage.DataType.scalar) :
    Ends env.device (checkType env r v) .passed fun _ ↦ True := by
  have hw : r.globalSize + v.type.reach ≤ wordLimit := by
    obtain ⟨s, -, hs⟩ := List.mem_map.1 hv
    rw [← hs, wordLimit, Coverage.DataType.reach]
    omega
  have hroom : HasRoom r v.type := by
    obtain ⟨s, -, hs⟩ := List.mem_map.1 hv
    exact hs ▸ hasRoom_scalar hn s
  unfold checkType
  split
  · exact .note _
  · have hfault : ∀ items, r.Covered items → ∀ item ∈ items,
        fault v.type (r.globalSize / r.localSize) item = none := by
      intro items hc item hi
      have hlt := hc.lt hi
      exact fault_eq_none (hc.groups item hi) (by omega)
    refine (reserve_ends hroom).bind fun _ _ ↦ ?_
    refine (launchItems_ends hl h hfault).bind fun items hc ↦ ?_
    refine (samples_ends hw).bind ?_
    rintro _ rfl
    exact (Ends.checkEq (totals_beq hv hc hn) _).bind fun _ _ ↦ .done trivial

end

section

variable {t : Trace} (hl : env.device.LaunchesAsHost)
variable (hr : ((launchRange env).run env.device t).2 = .ok r) (hn : r.globalSize ≤ 2 ^ 21)
variable (hpos : 0 < env.device.maxWorkGroupSize)
include hl hr hn hpos

theorem Copy.body_ends : Ends env.device (body env) .passed fun _ ↦ True := by
  have hreach : ∀ v ∈ Coverage.TypePack.scalars.visitsWithVectors, v.type.reach ≤ 15 := by decide
  obtain ⟨hrange, hfits⟩ := launchRange_ends hr
  refine hrange.bind ?_
  rintro _ rfl
  refine (Ends.foldlM (fun v hv checked ↦ ?_) 0).bind fun _ _ ↦ .note _
  exact checkType_ends hl (hfits.of_pos hpos) hn (hreach v hv) (hasRoom_of_mem hn hv) checked

theorem Reduction.body_ends : Ends env.device (body env) .passed fun _ ↦ True := by
  have htypes : ∀ v ∈ Coverage.TypePack.scalars.visits,
      v.type ∈ Coverage.Scalar.all.map Coverage.DataType.scalar := by
    decide
  obtain ⟨hrange, hfits⟩ := launchRange_ends hr
  refine hrange.bind ?_
  rintro _ rfl
  exact Ends.forM fun v hv ↦ checkType_ends hl (hfits.of_pos hpos) hn (htypes v hv)

end

namespace WorkGroups

theorem refuse_ends {e : DeviceError} {acceptable : DeviceError → Bool}
    (hl : env.device.LaunchesAsHost)
    (h : HostDevice.launch env.device.maxWorkGroupSize r = ⟨[], .refused e⟩)
    (ha : acceptable e = true) (what : String) :
    Ends env.device (refuse env what r acceptable) .passed (· = 0) := by
  refine (launch_refused_ends hl h).bind ?_
  rintro _ rfl
  have hnote : Ends env.device (expectRefused what acceptable (.refused e)) .passed
      fun _ ↦ True := by
    rw [expectRefused, if_pos ha]
    exact .note _
  exact hnote.bind fun _ _ ↦ .done rfl

section

variable {limit : Nat} (h : 2 * (limit + 1) < wordLimit)
include h

theorem unevenRange_eq : unevenRange limit = .ok ⟨limit * 2 + 1, 2⟩ := by
  rw [unevenRange, mulWord, if_pos (by omega)]
  exact congrArg (Except.map (NdRange.mk · 2)) (if_pos (by omega))

theorem oversizedRange_eq : oversizedRange limit = .ok ⟨(limit + 1) * 2, limit + 1⟩ := by
  rw [oversizedRange, addWord, if_pos (by omega)]
  exact congrArg (Except.map (NdRange.mk · _)) (if_pos (by omega))

theorem fullRange_eq : fullRange limit = .ok ⟨limit * 2, limit⟩ :=
  congrArg (Except.map (NdRange.mk · _)) (if_pos (by omega))

end

theorem launch_uneven (limit : Nat) : HostDevice.launch limit ⟨limit * 2 + 1, 2⟩ =
    ⟨[], .refused (.invalidWorkGroup (limit * 2 + 1) 2)⟩ := by
  refine HostDevice.launch_of_uneven (.inr ?_)
  dsimp only
  omega

theorem launch_oversized (limit : Nat) : HostDevice.launch limit ⟨(limit + 1) * 2, limit + 1⟩ =
    ⟨[], .refused (.workGroupTooLarge (limit + 1) limit)⟩ :=
  HostDevice.launch_of_oversized (Nat.dvd_mul_right _ _) (Nat.lt_succ_self _)

theorem full_fits {limit : Nat} (h : 0 < limit) : NdRange.Fits ⟨limit * 2, limit⟩ limit :=
  ⟨h, Nat.le_refl _, Nat.dvd_mul_right _ _⟩

variable (hl : env.device.LaunchesAsHost)
variable (hmax : 2 * (env.device.maxWorkGroupSize + 1) < wordLimit)
include hl hmax

theorem refuseUneven_ends :
    Ends env.device (refuseUneven env env.device.maxWorkGroupSize) .passed (· = 0) := by
  unfold refuseUneven
  split
  · refine (Ends.ofWord (unevenRange_eq hmax)).bind ?_
    rintro _ rfl
    exact refuse_ends hl (launch_uneven _) rfl _
  · exact (Ends.note _).bind fun _ _ ↦ .done rfl

theorem body_ends (hpos : 0 < env.device.maxWorkGroupSize) :
    Ends env.device (body env) .passed fun _ ↦ True := by
  have hempty : HostDevice.launch env.device.maxWorkGroupSize ⟨64, 0⟩ =
      ⟨[], .refused (.invalidWorkGroup 64 0)⟩ :=
    HostDevice.launch_of_uneven (.inl rfl)
  refine (refuse_ends hl hempty ?_ _).bind ?_
  · exact beq_self_eq_true _
  rintro _ rfl
  refine (refuseUneven_ends hl hmax).bind ?_
  rintro _ rfl
  refine (Ends.ofWord (oversizedRange_eq hmax)).bind ?_
  rintro _ rfl
  refine (refuse_ends hl (launch_oversized _) ?_ _).bind ?_
  · exact beq_self_eq_true _
  rintro _ rfl
  -- None of the refused launches ran an item, so all that ran come from the last one.
  refine (Ends.checkEq rfl _).bind fun _ _ ↦ ?_
  refine (Ends.ofWord (fullRange_eq hmax)).bind ?_
  rintro _ rfl
  refine (launchItems_ends hl (full_fits hpos) fun _ _ _ _ ↦ rfl).bind fun items hc ↦ ?_
  refine (Ends.checkEq ?_ _).bind fun _ _ ↦ .done trivial
  rw [hc.length_eq, Nat.zero_add]
  exact beq_self_eq_true _

end WorkGroups

namespace Capabilities

variable (hd : env.device.Honest)
include hd

theorem checkCapability_ends (c : Capability) (label : String) :
    Ends env.device (checkCapability env.device c label) .passed fun _ ↦ True := by
  have hdemand : Ends env.device
      (checkDemand label (env.device.has c) (env.device.require c)) .passed fun _ ↦ True := by
    rw [hd.require_eq]
    cases env.device.has c <;> exact .done trivial
  refine (Ends.note _).bind fun _ _ ↦ hdemand.bind fun _ _ ↦ ?_
  split
  · next hc =>
    subst hc
    exact (Ends.check (beq_iff_eq.2 hd.has_subGroups) _).bind fun _ _ ↦ .done trivial
  · exact .done trivial

theorem body_ends (hpos : 0 < env.device.maxWorkGroupSize) :
    Ends env.device (body env) .passed fun _ ↦ True := by
  refine (Ends.forM fun p _ ↦ checkCapability_ends hd p.1 p.2).bind fun _ _ ↦ ?_
  exact (Ends.check (decide_eq_true hpos) _).bind fun _ _ ↦ .done trivial

theorem body_ends_failed (hzero : ¬ 0 < env.device.maxWorkGroupSize) :
    Ends env.device (body env) .failed fun _ ↦ True := by
  refine (Ends.forM fun p _ ↦ checkCapability_ends hd p.1 p.2).bind fun _ _ ↦ ?_
  exact (Ends.check_false (decide_eq_false hzero) _).bind_passed fun _ _ ↦ .done trivial

end Capabilities

namespace SubGroups

variable (hd : env.device.Honest)
include hd

theorem body_ends_skipped (hw : env.device.subGroupSize = none) :
    Ends env.device (body env) .skipped fun _ ↦ True := by
  rw [body, hd.has_subGroups, hw]
  exact .record trivial

variable {width : Nat} (hw : env.device.subGroupSize = some width)
include hw

theorem body_eq : body env = (do
    let limit := env.device.maxWorkGroupSize
    .note ("sub-group size " ++ shown width ++ ", max work-group size " ++ shown limit)
    if ← Script.check (0 < width) "sub-group size is zero" then
      let _ ← Script.check (limit % width == 0) ("sub-group size " ++ shown width ++
        " does not divide max work-group size " ++ shown limit)
      return ()) := by
  rw [body, hd.has_subGroups, hw]
  rfl

theorem body_ends (hpos : 0 < width) (hm : env.device.maxWorkGroupSize % width = 0) :
    Ends env.device (body env) .passed fun _ ↦ True := by
  rw [body_eq hd hw]
  refine (Ends.note _).bind fun _ _ ↦ (Ends.check (decide_eq_true hpos) _).bind ?_
  rintro _ rfl
  exact (Ends.check (beq_iff_eq.2 hm) _).bind fun _ _ ↦ .done trivial

theorem body_ends_failed (hm : width = 0 ∨ env.device.maxWorkGroupSize % width ≠ 0) :
    Ends env.device (body env) .failed fun _ ↦ True := by
  rw [body_eq hd hw]
  refine (Ends.note _).bind fun _ _ ↦ ?_
  by_cases hpos : 0 < width
  · have hne : (env.device.maxWorkGroupSize % width == 0) = false :=
      beq_eq_false_iff_ne.2 (hm.resolve_left (Nat.ne_of_gt hpos))
    refine (Ends.check (decide_eq_true hpos) _).bind ?_
    rintro _ rfl
    exact (Ends.check_false hne _).bind_passed fun _ _ ↦ .done trivial
  · refine (Ends.check_false (decide_eq_false hpos) _).bind_passed ?_
    rintro _ rfl
    exact .done trivial

end SubGroups

end Suite

end Conformance
