import Conformance.Proofs.Conformant
import Conformance.Proofs.LostItems
import Conformance.Proofs.SampleSums
import Mathlib.Algebra.Order.Floor.Div

namespace Conformance

namespace Script

variable {α β : Type} {d : Device} {earlier : Array NdRange} {p : Script α} {f : α → Script β}
variable {deeds : List Deed} {a : α}

/-- On the device, after the launches `earlier`, a number that does not fit a word stops the
script. -/
def Overflows (d : Device) (earlier : Array NdRange) (p : Script α) : Prop :=
  ∃ (deeds : List Deed) (o : Overflow),
    Course d earlier p deeds (.error (.panicked (.text o.message)))

theorem Overflows.bind (h : p.Overflows d earlier) (f : α → Script β) :
    (p >>= f).Overflows d earlier := by
  obtain ⟨deeds, o, hc⟩ := h
  exact ⟨deeds, o, hc.bind_of_error f⟩

theorem overflows_ofWord {x : Except Overflow α} (h : ∃ o, x = .error o) :
    (ofWord x).Overflows d earlier := by
  obtain ⟨o, rfl⟩ := h
  exact ⟨[], o, .stop _ _⟩

theorem Course.not_overflows (h : Course d earlier p deeds (.ok a)) : ¬ p.Overflows d earlier := by
  rintro ⟨deeds', o, hc⟩
  cases (h.unique hc).2

theorem Course.not_overflows_of_capacity
    (h : Course d earlier p deeds (.error (.panicked (.text "capacity overflow")))) :
    ¬ p.Overflows d earlier := by
  rintro ⟨deeds', o, hc⟩
  have hm := (h.unique hc).2
  cases o <;> simp [Overflow.message] at hm

namespace Ends

variable {s : Status} {Q : α → Prop}

theorem not_overflows (h : Ends d p s Q) (earlier : Array NdRange) : ¬ p.Overflows d earlier := by
  obtain ⟨deeds, a, hc, -⟩ := h earlier
  exact hc.not_overflows

theorem overflows_bind (h : Ends d p s Q)
    (hf : ∀ a, Q a → ∀ later, (f a).Overflows d later) : (p >>= f).Overflows d earlier := by
  obtain ⟨deeds, a, hc, -, ha⟩ := h earlier
  obtain ⟨deeds', o, hc'⟩ := hf a ha (seen earlier deeds)
  exact ⟨_, o, hc.append hc'⟩

end Ends

end Script

open Coverage (DataType Scalar TypePack Visit)
open Script (Course Ends Overflows)

namespace Suite

variable {env : TestEnv} {r : NdRange} {earlier : Array NdRange}

/-- However many groups of this size it takes to hold so many items, their items are too many for a
word. -/
def Unroundable (count size : Nat) : Prop :=
  ∀ groups, count ≤ groups * size → wordLimit ≤ groups * size

theorem divUp_le_iff {count size groups : Nat} (h : 0 < size) :
    divUp count size ≤ groups ↔ count ≤ groups * size := by
  rw [Nat.mul_comm]
  exact ceilDiv_le_iff_le_mul h

theorem mulWord_divUp_eq_error_iff {count size : Nat} (h : 0 < size) :
    (∃ o, mulWord (divUp count size) size = .error o) ↔ Unroundable count size := by
  constructor
  · rintro ⟨o, ho⟩ groups hg
    unfold mulWord at ho
    split at ho
    · cases ho
    · next hlimit =>
      exact (Nat.not_lt.1 hlimit).trans (Nat.mul_le_mul_right size ((divUp_le_iff h).2 hg))
  · intro hu
    have hlimit := hu (divUp count size) ((divUp_le_iff h).1 le_rfl)
    exact ⟨_, if_neg (Nat.not_lt.2 hlimit)⟩

def groupSize (env : TestEnv) : Nat :=
  min (max (env.asked "local_size" defaultLocalSize) 1) (max env.device.maxWorkGroupSize 1)

def wantedSize (env : TestEnv) : Nat :=
  max (env.asked "global_size" defaultGlobalSize) (groupSize env)

theorem groupSize_pos (env : TestEnv) : 0 < groupSize env := by
  unfold groupSize
  omega

theorem rangeFor_eq_error_iff :
    (∃ o, rangeFor env = .error o) ↔
      ∃ o, mulWord (divUp (wantedSize env) (groupSize env)) (groupSize env) = .error o := by
  have heq : rangeFor env = (mulWord (divUp (wantedSize env) (groupSize env))
      (groupSize env)).map (⟨·, groupSize env⟩) := rfl
  rw [heq]
  cases mulWord (divUp (wantedSize env) (groupSize env)) (groupSize env) <;> simp [Except.map]

theorem fits_of_rangeFor (h : rangeFor env = .ok r) (hpos : 0 < env.device.maxWorkGroupSize) :
    r.Fits env.device.maxWorkGroupSize := by
  obtain ⟨globalSize, hg, rfl⟩ := map_eq_ok_iff.1 h
  constructor
  · exact groupSize_pos env
  · dsimp only
    omega
  · rw [mulWord_eq_ok hg]
    exact Nat.dvd_mul_left _ _

theorem launchRange_overflows (h : Unroundable (wantedSize env) (groupSize env)) :
    (launchRange env).Overflows env.device earlier := by
  apply (env.paramOr_ends env.device "local_size" defaultLocalSize).overflows_bind
  rintro _ rfl later
  apply (env.paramOr_ends env.device "global_size" defaultGlobalSize).overflows_bind
  rintro _ rfl later
  apply Overflows.bind
  exact Script.overflows_ofWord ((mulWord_divUp_eq_error_iff (groupSize_pos env)).2 h)

theorem overflows_iff_of_bind {p : Script Unit} {f : NdRange → Script Unit}
    (hp : p = launchRange env >>= f)
    (hf : ∀ r earlier, rangeFor env = .ok r → ¬ (f r).Overflows env.device earlier) :
    p.Overflows env.device earlier ↔ Unroundable (wantedSize env) (groupSize env) := by
  rw [hp]
  constructor
  · intro h
    cases hr : rangeFor env with
    | error o =>
      rw [← mulWord_divUp_eq_error_iff (groupSize_pos env), ← rangeFor_eq_error_iff]
      exact ⟨o, hr⟩
    | ok r =>
      obtain ⟨notices, hn⟩ := launchRange_course hr env.device earlier
      obtain ⟨deeds, o, hc⟩ := h
      obtain ⟨cause, hstop, -⟩ | ⟨r', first, rest, hfirst, hrest, -⟩ := hc.bind_cases
      · cases (hn.unique hstop).2
      · cases (hn.unique hfirst).2
        exact absurd ⟨rest, o, hrest⟩ (hf r _ hr)
  · intro h
    exact (launchRange_overflows h).bind f

section

variable (hl : env.device.LaunchesAsHost) (hpos : 0 < env.device.maxWorkGroupSize)
include hl hpos

theorem Copy.overflows_iff (earlier : Array NdRange) : (body env).Overflows env.device earlier ↔
    Unroundable (wantedSize env) (groupSize env) := by
  apply overflows_iff_of_bind rfl
  intro r earlier hr
  have hd : ∀ earlier, (env.device.launch earlier r).Completed r := by
    intro earlier
    obtain ⟨he, hc⟩ := HostDevice.launch_covers (fits_of_rangeFor hr hpos)
    rw [hl]
    exact ⟨he, fun item hi ↦ hc.lt hi⟩
  -- A type that memory has no slots for stops the visits, which is no overflow.
  by_cases hr : RoomForAll env.device r TypePack.scalars.visitsWithVectors
  · have hvisits := visits_course hd hr reach_lt_of_mem earlier 0
    exact (hvisits.append (.record (.done _ _))).not_overflows
  · obtain ⟨before, v, after, hs, hb, hlack, hv⟩ := exists_first_without_room hr
    have hreach : ∀ v ∈ before, v.type.reach < 2 ^ 63 :=
      fun v hm ↦ reach_lt_of_mem v (hs ▸ List.mem_append_left _ hm)
    have hvisits := visits_overflow hd after hb hreach hlack hv earlier 0
    rw [← hs] at hvisits
    exact (hvisits.bind_of_error _).not_overflows_of_capacity

omit hl hpos in
/-- The visits of scalars come to their end, unless memory has no room for the sums of one. -/
theorem Reduction.forM_course (hd : ∀ earlier, (env.device.launch earlier r).Grouped r)
    {visits : List Visit} (hv : ∀ v ∈ visits, v.type ∈ Scalar.all.map DataType.scalar)
    (earlier : Array NdRange) : ∃ deeds ending,
      Course env.device earlier (visits.forM (checkType env r)) deeds ending ∧
      (ending = .ok () ∨ ending = .error (.panicked (.text "capacity overflow"))) := by
  induction visits generalizing earlier with
  | nil => exact ⟨_, _, .done _ _, .inl rfl⟩
  | cons v visits ih =>
    obtain ⟨hscalar, hv⟩ := List.forall_mem_cons.1 hv
    obtain ⟨s, -, hs⟩ := List.mem_map.1 hscalar
    have hgo (first : List Deed) (hfirst : Course env.device earlier (checkType env r v) first
        (.ok ())) : ∃ deeds ending,
          Course env.device earlier ((v :: visits).forM (checkType env r)) deeds ending ∧
          (ending = .ok () ∨ ending = .error (.panicked (.text "capacity overflow"))) := by
      obtain ⟨rest, ending, hrest, he⟩ := ih hv (Script.seen earlier first)
      exact ⟨first ++ rest, ending, hfirst.append hrest, he⟩
    cases hlack : lacking? env.device v.type.requires with
    | some c =>
      refine hgo [.record (.note (notChecked v.label c))] ?_
      simp only [checkType, hlack]
      exact .record (.done _ _)
    | none =>
      by_cases hr : HasRoom r v.type
      · exact hgo _ (checkType_course hr hs.symm hlack (hd earlier))
      · exact ⟨_, _, (checkType_overflows hr hlack earlier).bind_of_error _, .inr rfl⟩

theorem Reduction.overflows_iff (earlier : Array NdRange) :
    (body env).Overflows env.device earlier ↔ Unroundable (wantedSize env) (groupSize env) := by
  apply overflows_iff_of_bind rfl
  intro r earlier hr
  have hd : ∀ earlier, (env.device.launch earlier r).Grouped r := by
    intro earlier
    obtain ⟨he, hc⟩ := HostDevice.launch_covers (fits_of_rangeFor hr hpos)
    rw [hl]
    exact ⟨he, hc.groups⟩
  obtain ⟨deeds, ending, hc, rfl | rfl⟩ := forM_course hd scalar_of_mem earlier
  · exact hc.not_overflows
  · exact hc.not_overflows_of_capacity

end

namespace WorkGroups

variable {limit : Nat}

theorem unevenRange_cases (limit : Nat) :
    (∃ o, unevenRange limit = .error o) ∨ unevenRange limit = .ok ⟨limit * 2 + 1, 2⟩ := by
  by_cases hdouble : limit * 2 < wordLimit
  · rw [unevenRange, mulWord, if_pos hdouble]
    by_cases hodd : limit * 2 + 1 < wordLimit
    · exact .inr (congrArg (Except.map (NdRange.mk · 2)) (if_pos hodd))
    · exact .inl ⟨_, congrArg (Except.map (NdRange.mk · 2)) (if_neg hodd)⟩
  · rw [unevenRange, mulWord, if_neg hdouble]
    exact .inl ⟨_, rfl⟩

theorem oversizedRange_eq_error (h : wordLimit ≤ 2 * (limit + 1)) :
    ∃ o, oversizedRange limit = .error o := by
  unfold oversizedRange addWord
  split
  · have hm : mulWord (limit + 1) 2 = .error .multiplication := by
      apply if_neg
      omega
    exact ⟨_, congrArg (Except.map (NdRange.mk · _)) hm⟩
  · exact ⟨_, rfl⟩

theorem overflows_iff (hl : env.device.LaunchesAsHost) (hpos : 0 < env.device.maxWorkGroupSize)
    (earlier : Array NdRange) :
    (body env).Overflows env.device earlier ↔
      wordLimit ≤ 2 * (env.device.maxWorkGroupSize + 1) := by
  constructor
  · intro h
    by_contra hlimit
    exact (body_ends hl (Nat.not_le.1 hlimit) hpos).not_overflows earlier h
  · intro hlimit
    have hempty : HostDevice.launch env.device.maxWorkGroupSize ⟨64, 0⟩ =
        ⟨[], .refused (.invalidWorkGroup 64 0)⟩ :=
      HostDevice.launch_of_uneven (.inl rfl)
    have htwo : 2 ≤ env.device.maxWorkGroupSize := by
      unfold wordLimit at hlimit
      omega
    refine (refuse_ends hl hempty ?_ _).overflows_bind ?_
    · exact beq_self_eq_true _
    rintro _ rfl later
    -- The uneven range may still consist of words. Then the oversized one does not.
    obtain hu | hu := unevenRange_cases env.device.maxWorkGroupSize
    · apply Overflows.bind
      rw [refuseUneven, if_pos htwo]
      exact (Script.overflows_ofWord hu).bind _
    · have hends : Ends env.device (refuseUneven env env.device.maxWorkGroupSize) .passed
          (· = 0) := by
        rw [refuseUneven, if_pos htwo, hu]
        exact refuse_ends hl (launch_uneven _) rfl _
      apply hends.overflows_bind
      rintro _ rfl later
      exact (Script.overflows_ofWord (oversizedRange_eq_error hlimit)).bind _

end WorkGroups

end Suite

theorem subGroups_not_overflows {c : DeviceConfig} (processors : Nat)
    (parameters : Dictionary String) (launchTime : NdRange → Duration) (earlier : Array NdRange)
    (h : c.Sound) :
    ¬ (Suite.SubGroups.body (onHost c processors parameters launchTime)).Overflows
      (onHost c processors parameters launchTime).device earlier := by
  have hd := onHost_honest c processors parameters launchTime
  cases hw : c.subGroupSize with
  | none => exact (Suite.SubGroups.body_ends_skipped hd hw).not_overflows earlier
  | some width =>
    obtain ⟨hpos, hm⟩ := h.divides width hw
    exact (Suite.SubGroups.body_ends hd hw hpos hm).not_overflows earlier

/-- On a valid host the tests count beyond a word in two ways only: one of them doubles a number
just above the limit, and two of them round the wanted items up to whole work-groups. -/
theorem host_overflows_iff (c : DeviceConfig) (processors : Nat) (parameters : Dictionary String)
    (launchTime : NdRange → Duration) (earlier : Array NdRange)
    (hvalid : (onHost c processors parameters launchTime).device.validate = .ok ()) :
    let env := onHost c processors parameters launchTime
    ¬ (Suite.Capabilities.body env).Overflows env.device earlier ∧
    ¬ (Suite.SubGroups.body env).Overflows env.device earlier ∧
    ((Suite.WorkGroups.body env).Overflows env.device earlier ↔
      wordLimit ≤ 2 * (c.maxWorkGroupSize + 1)) ∧
    ((Suite.Copy.body env).Overflows env.device earlier ↔
      Suite.Unroundable (Suite.wantedSize env) (Suite.groupSize env)) ∧
    ((Suite.Reduction.body env).Overflows env.device earlier ↔
      Suite.Unroundable (Suite.wantedSize env) (Suite.groupSize env)) ∧
    ((∀ t ∈ Suite.all, ¬ (t.body env).Overflows env.device earlier) ↔
      2 * (c.maxWorkGroupSize + 1) < wordLimit ∧
        ¬ Suite.Unroundable (Suite.wantedSize env) (Suite.groupSize env)) := by
  intro env
  have hs : c.Sound := HostDevice.validate_eq_ok_iff.1 hvalid
  have hl : env.device.LaunchesAsHost := onHost_launches c processors parameters launchTime
  have hd : env.device.Honest := onHost_honest c processors parameters launchTime
  have hcapabilities : ¬ (Suite.Capabilities.body env).Overflows env.device earlier :=
    (Suite.Capabilities.body_ends hd hs.pos).not_overflows earlier
  have hsubGroups := subGroups_not_overflows processors parameters launchTime earlier hs
  have hworkGroups := Suite.WorkGroups.overflows_iff hl hs.pos earlier
  have hcopy := Suite.Copy.overflows_iff hl hs.pos earlier
  have hreduction := Suite.Reduction.overflows_iff hl hs.pos earlier
  refine ⟨hcapabilities, hsubGroups, hworkGroups, hcopy, hreduction, ?_⟩
  constructor
  · intro h
    constructor
    · exact Nat.not_le.1 (mt hworkGroups.2 (h Suite.WorkGroups.test (by simp [Suite.all])))
    · exact mt hcopy.2 (h Suite.Copy.test (by simp [Suite.all]))
  · rintro ⟨hlimit, hsize⟩ t ht
    simp only [Suite.all, List.mem_cons, List.not_mem_nil, or_false] at ht
    obtain rfl | rfl | rfl | rfl | rfl := ht
    · exact hcapabilities
    · exact mt hcopy.1 hsize
    · exact mt hreduction.1 hsize
    · exact hsubGroups
    · exact mt hworkGroups.1 (Nat.not_le.2 hlimit)

def utmost : TestEnv :=
  onHost { maxWorkGroupSize := 9223372036854775806 } 1 [("global_size", "18446744073709551552")]

theorem host_overflows_iff_utmost : utmost.device.validate = .ok () ∧
    ∀ t ∈ Suite.all, ¬ (t.body utmost).Overflows utmost.device #[] := by
  have hvalid : utmost.device.validate = .ok () := rfl
  have hwanted : Suite.wantedSize utmost = 288230376151711743 * 64 := by cbv
  have hgroup : Suite.groupSize utmost = 64 := by cbv
  obtain ⟨-, -, -, -, -, hall⟩ := host_overflows_iff _ _ _ _ #[] hvalid
  refine ⟨hvalid, hall.2 ⟨by decide, ?_⟩⟩
  intro hu
  have hlimit := hu 288230376151711743 (by rw [← utmost, hwanted, hgroup])
  rw [← utmost, hgroup, wordLimit] at hlimit
  omega

def doubled : TestEnv := onHost { threads := 1, maxWorkGroupSize := 9223372036854775807 } 1 []

def unroundable : TestEnv := onHost {} 1 [("global_size", "18446744073709551553")]

theorem valid_host_overflows :
    doubled.device.validate = .ok () ∧
    (Suite.WorkGroups.body doubled).Overflows doubled.device #[] ∧
    (Attempt.ofTest doubled Suite.WorkGroups.test #[]).events = [
      .note "zero local size: rejected with 'invalid work-group size 0 for global range 64'",
      .note ("non-dividing local size: rejected with 'invalid work-group size 2 for global range " ++
        "18446744073709551615'"),
      .fail "panicked: attempt to multiply with overflow" none] ∧
    unroundable.device.validate = .ok () ∧
    (Suite.Copy.body unroundable).Overflows unroundable.device #[] ∧
    (Suite.Reduction.body unroundable).Overflows unroundable.device #[] := by
  have hwanted : Suite.wantedSize unroundable = 18446744073709551553 := by cbv
  have hgroup : Suite.groupSize unroundable = 64 := by cbv
  have hu : Suite.Unroundable (Suite.wantedSize unroundable) (Suite.groupSize unroundable) := by
    intro groups hg
    rw [hwanted, hgroup] at hg
    rw [hgroup, wordLimit]
    omega
  refine ⟨rfl, ?_, ?_, rfl, ?_, ?_⟩
  · exact (Suite.WorkGroups.overflows_iff (onHost_launches _ _ _ _) (by decide) #[]).2 (by decide)
  · decide +kernel
  · exact (Suite.Copy.overflows_iff (onHost_launches _ _ _ _) (by decide) #[]).2 hu
  · exact (Suite.Reduction.overflows_iff (onHost_launches _ _ _ _) (by decide) #[]).2 hu

end Conformance
