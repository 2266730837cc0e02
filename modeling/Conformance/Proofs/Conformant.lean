import Conformance.Proofs.HostSuites

namespace Conformance

open Script (Trace)

structure DeviceConfig.Sound (c : DeviceConfig) : Prop where
  pos : 0 < c.maxWorkGroupSize
  divides : ∀ width, c.subGroupSize = some width → 0 < width ∧ c.maxWorkGroupSize % width = 0

namespace HostDevice

variable {processors : Nat} {c : DeviceConfig}

theorem workerThreads_pos (processors : Nat) (c : DeviceConfig) :
    0 < workerThreads processors c := by
  unfold workerThreads
  split <;> omega

theorem available_iff : available processors c = true ↔ 0 < c.maxWorkGroupSize := by
  simp [available, workerThreads_pos]

theorem validate_eq_ok_iff : validate processors c = .ok () ↔ c.Sound := by
  unfold validate
  by_cases hpos : 0 < c.maxWorkGroupSize
  · rw [available_iff.2 hpos]
    cases hw : c.subGroupSize with
    | none => exact iff_of_true rfl ⟨hpos, by simp [hw]⟩
    | some width =>
      by_cases hd : width = 0 ∨ c.maxWorkGroupSize % width ≠ 0
      · simp only [if_pos hd]
        refine iff_of_false nofun fun h ↦ ?_
        have hs := h.divides width hw
        omega
      · simp only [if_neg hd]
        refine iff_of_true rfl ⟨hpos, fun width' hw' ↦ ?_⟩
        cases hw.symm.trans hw'
        omega
  · have ha : available processors c = false := by
      rwa [← Bool.not_eq_true, available_iff]
    rw [ha]
    exact iff_of_false nofun fun h ↦ hpos h.pos

end HostDevice

def onHost (c : DeviceConfig) (processors : Nat) (parameters : Dictionary String)
    (launchTime : NdRange → Duration := fun _ ↦ 0) : TestEnv :=
  ⟨HostDevice.ofConfig c processors launchTime, parameters⟩

section

variable (c : DeviceConfig) (processors : Nat) (parameters : Dictionary String)
  (launchTime : NdRange → Duration)

theorem onHost_launches : (onHost c processors parameters launchTime).device.LaunchesAsHost :=
  fun _ _ ↦ rfl

theorem onHost_honest : (onHost c processors parameters launchTime).device.Honest :=
  ⟨fun _ ↦ rfl, rfl⟩

variable {c} (earlier : Array NdRange)

theorem exists_failed_of_not_sound (h : ¬ c.Sound) : ∃ t ∈ Suite.all,
    (Attempt.ofTest (onHost c processors parameters launchTime) t earlier).Gives .failed := by
  have hd := onHost_honest c processors parameters launchTime
  by_cases hpos : 0 < c.maxWorkGroupSize
  · obtain ⟨width, hw, hm⟩ : ∃ width, c.subGroupSize = some width ∧
        (width = 0 ∨ c.maxWorkGroupSize % width ≠ 0) := by
      by_contra hne
      refine h ⟨hpos, fun width hw ↦ ?_⟩
      have hm : ¬ (width = 0 ∨ c.maxWorkGroupSize % width ≠ 0) := fun hm ↦ hne ⟨width, hw, hm⟩
      omega
    exact ⟨Suite.SubGroups.test, by simp [Suite.all],
      Attempt.gives_of_ends (Suite.SubGroups.body_ends_failed hd hw hm) earlier⟩
  · exact ⟨Suite.Capabilities.test, by simp [Suite.all],
      Attempt.gives_of_ends (Suite.Capabilities.body_ends_failed hd hpos) earlier⟩

theorem subGroups_gives_of_sound (h : c.Sound) :
    (Attempt.ofTest (onHost c processors parameters launchTime) Suite.SubGroups.test earlier).Gives
      (if c.subGroupSize = none then .skipped else .passed) := by
  have hd := onHost_honest c processors parameters launchTime
  cases hw : c.subGroupSize with
  | none => exact Attempt.gives_of_ends (Suite.SubGroups.body_ends_skipped hd hw) earlier
  | some width =>
    obtain ⟨hpos, hm⟩ := h.divides width hw
    exact Attempt.gives_of_ends (Suite.SubGroups.body_ends hd hw hpos hm) earlier

end

/-- The host validates exactly the settings under which none of the tests fails, as long as the
numbers that the tests count with are words, and the items few enough for exact sums of floats. On
a valid host every test passes, but for the one of the sub-groups where there are none. -/
theorem validate_iff_conformant (c : DeviceConfig) (processors : Nat)
    (parameters : Dictionary String) (launchTime : NdRange → Duration) (earlier : Array NdRange)
    {start : Trace} {r : NdRange}
    (hmax : 2 * (c.maxWorkGroupSize + 1) < wordLimit)
    (hr : ((Suite.launchRange (onHost c processors parameters launchTime)).run
      (onHost c processors parameters launchTime).device start).2 = .ok r)
    (hn : r.globalSize ≤ 2 ^ 21) :
    let env := onHost c processors parameters launchTime
    (env.device.validate = .ok () ↔
      ∀ t ∈ Suite.all, ¬ (Attempt.ofTest env t earlier).Gives .failed) ∧
    (env.device.validate = .ok () →
      (Attempt.ofTest env Suite.Copy.test earlier).Gives .passed ∧
      (Attempt.ofTest env Suite.Reduction.test earlier).Gives .passed ∧
      (Attempt.ofTest env Suite.WorkGroups.test earlier).Gives .passed ∧
      (Attempt.ofTest env Suite.Capabilities.test earlier).Gives .passed ∧
      ((Attempt.ofTest env Suite.SubGroups.test earlier).Gives .skipped ↔ c.subGroupSize = none) ∧
      ((Attempt.ofTest env Suite.SubGroups.test earlier).Gives .passed ↔
        c.subGroupSize ≠ none)) := by
  intro env
  have hvalid : env.device.validate = .ok () ↔ c.Sound := HostDevice.validate_eq_ok_iff
  have hd : env.device.Honest := onHost_honest c processors parameters launchTime
  have hl : env.device.LaunchesAsHost := onHost_launches c processors parameters launchTime
  have hpassed (h : c.Sound) :
      (Attempt.ofTest env Suite.Copy.test earlier).Gives .passed ∧
      (Attempt.ofTest env Suite.Reduction.test earlier).Gives .passed ∧
      (Attempt.ofTest env Suite.WorkGroups.test earlier).Gives .passed ∧
      (Attempt.ofTest env Suite.Capabilities.test earlier).Gives .passed :=
    ⟨Attempt.gives_of_ends (Suite.Copy.body_ends hl hr hn h.pos) earlier,
      Attempt.gives_of_ends (Suite.Reduction.body_ends hl hr hn h.pos) earlier,
      Attempt.gives_of_ends (Suite.WorkGroups.body_ends hl hmax h.pos) earlier,
      Attempt.gives_of_ends (Suite.Capabilities.body_ends hd h.pos) earlier⟩
  have hsub (h : c.Sound) := subGroups_gives_of_sound processors parameters launchTime earlier h
  refine ⟨hvalid.trans ⟨fun h t ht hf ↦ ?_, fun h ↦ ?_⟩, fun h ↦ ?_⟩
  · obtain ⟨hcopy, hreduction, hgroups, hcapabilities⟩ := hpassed h
    simp only [Suite.all, List.mem_cons, List.not_mem_nil, or_false] at ht
    obtain rfl | rfl | rfl | rfl | rfl := ht
    · exact absurd (hcapabilities.iff_eq.1 hf) (by decide)
    · exact absurd (hcopy.iff_eq.1 hf) (by decide)
    · exact absurd (hreduction.iff_eq.1 hf) (by decide)
    · refine absurd ((hsub h).iff_eq.1 hf) ?_
      split <;> decide
    · exact absurd (hgroups.iff_eq.1 hf) (by decide)
  · by_contra hns
    obtain ⟨t, ht, hf⟩ := exists_failed_of_not_sound processors parameters launchTime earlier hns
    exact h t ht hf
  · have hs := hsub (hvalid.1 h)
    obtain ⟨hcopy, hreduction, hgroups, hcapabilities⟩ := hpassed (hvalid.1 h)
    refine ⟨hcopy, hreduction, hgroups, hcapabilities, hs.iff_eq.trans ?_, hs.iff_eq.trans ?_⟩
    · split <;> simp [*]
    · split <;> simp [*]

def narrow : DeviceConfig := { threads := 3, maxWorkGroupSize := 8, subGroupSize := some 4 }

def shortRange : Dictionary String := [("global_size", "18"), ("local_size", "5")]

theorem validate_iff_conformant_narrow :
    (onHost narrow 1 shortRange).device.validate = .ok () ∧
    (Attempt.ofTest (onHost narrow 1 shortRange) Suite.Reduction.test #[]).Gives .passed ∧
    (Attempt.ofTest (onHost narrow 1 shortRange) Suite.SubGroups.test #[]).Gives .passed := by
  have hr : ((Suite.launchRange (onHost narrow 1 shortRange)).run
      (onHost narrow 1 shortRange).device (.start #[])).2 = .ok ⟨20, 5⟩ := rfl
  have hvalid : (onHost narrow 1 shortRange).device.validate = .ok () := rfl
  obtain ⟨-, hpassed⟩ :=
    validate_iff_conformant narrow 1 shortRange _ #[] (by decide) hr (by decide)
  obtain ⟨-, hreduction, -, -, -, hsub⟩ := hpassed hvalid
  exact ⟨hvalid, hreduction, hsub.2 (by decide)⟩

end Conformance
