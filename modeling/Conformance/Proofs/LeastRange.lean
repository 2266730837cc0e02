import Conformance.Proofs.MalformedRanges
import Conformance.Proofs.Overrides
import Conformance.Proofs.SizeOverflow
import Mathlib.Order.Bounds.Defs

namespace Conformance

namespace TestEnv

variable {env : TestEnv} {key : String} {default n : Nat}

def Settles (env : TestEnv) (key : String) (default n : Nat) : Prop :=
  (∃ raw, env.param key = some raw ∧ Numeral.Writes wordLimit raw.toList n) ∨
  n = default ∧ ∀ raw m, env.param key = some raw → ¬ Numeral.Writes wordLimit raw.toList m

theorem settles_iff : env.Settles key default n ↔ env.asked key default = n := by
  have hsome : (∃ raw, env.param key = some raw ∧ Numeral.Writes wordLimit raw.toList n) ↔
      (env.param key).bind read? = some n := by
    simp only [Option.bind_eq_some_iff, Environment.read?_eq_some_iff]
  have hnone : (∀ raw m, env.param key = some raw → ¬ Numeral.Writes wordLimit raw.toList m) ↔
      (env.param key).bind read? = (none : Option Nat) := by
    simp only [Option.eq_none_iff_forall_ne_some, ne_eq, Option.bind_eq_some_iff,
      Environment.read?_eq_some_iff, not_exists, not_and]
    exact forall_comm
  rw [Settles, hsome, hnone, asked]
  cases (env.param key).bind (read? : String → Option Nat) <;> simp [eq_comm]

end TestEnv

namespace Suite

open Script (Course)

variable {count size limit : Nat} {env : TestEnv} {r : NdRange}

theorem divUp_mul_isLeast (h : 0 < size) :
    IsLeast {n | size ∣ n ∧ count ≤ n} (divUp count size * size) := by
  constructor
  · exact ⟨Nat.dvd_mul_left _ _, (divUp_le_iff h).1 le_rfl⟩
  · rintro n ⟨⟨groups, rfl⟩, hn⟩
    rw [Nat.mul_comm size groups] at hn ⊢
    exact Nat.mul_le_mul_right size ((divUp_le_iff h).2 hn)

/-- One group fewer has no room for the items. -/
theorem divUp_mul_lt (h : 0 < size) : divUp count size * size < count + size := by
  have hfewer : ¬ divUp count size ≤ divUp count size - 1 ∨ divUp count size = 0 := by
    omega
  obtain hfewer | hzero := hfewer
  · rw [divUp_le_iff h, Nat.sub_mul, Nat.one_mul] at hfewer
    omega
  · rw [hzero, Nat.zero_mul]
    omega

theorem rangeFor_eq {globalSize localSize : Nat}
    (hg : env.Settles "global_size" defaultGlobalSize globalSize)
    (hl : env.Settles "local_size" defaultLocalSize localSize) :
    rangeFor env = rangeOf env.device.maxWorkGroupSize globalSize localSize := by
  rw [rangeFor, TestEnv.settles_iff.1 hg, TestEnv.settles_iff.1 hl]

/-- The data-parallel tests ask for work-groups of one size, kept between one item and the limit of
the device, and for the least number of items that fills such groups and is as large as wanted. If
this number does not fit a word, they panic instead. Otherwise the range has a group, it is larger
than wanted by less than a group, and a device with a limit that checks its ranges runs it. -/
theorem launchRange_least {globalSize localSize : Nat}
    (hg : env.Settles "global_size" 1024 globalSize) (hl : env.Settles "local_size" 64 localSize)
    (d : Device) (earlier : Array NdRange) :
    let size := min (max localSize 1) (max env.device.maxWorkGroupSize 1)
    let wanted := max globalSize size
    ∃ least, IsLeast {n | size ∣ n ∧ wanted ≤ n} least ∧
      (wordLimit ≤ least → ∃ notices : List Notice, Course d earlier (launchRange env)
        (notices.map .notify) (.error (.panicked (.text "attempt to multiply with overflow")))) ∧
      (least < wordLimit →
        (∃ notices : List Notice, Course d earlier (launchRange env) (notices.map .notify)
          (.ok ⟨least, size⟩)) ∧
        0 < least / size ∧ NdRange.groups ⟨least, size⟩ = some (least / size) ∧
        least < wanted + size ∧
        (0 < env.device.maxWorkGroupSize →
          (∀ earlier r, (env.device.launch earlier r).Checked env.device.maxWorkGroupSize r) →
          ∀ earlier, (env.device.launch earlier ⟨least, size⟩).ending = .completed ∧
            NdRange.Covered ⟨least, size⟩ (env.device.launch earlier ⟨least, size⟩).items)) := by
  intro size wanted
  have hpos : 0 < size := by omega
  have hleast : IsLeast {n | size ∣ n ∧ wanted ≤ n} (divUp wanted size * size) :=
    divUp_mul_isLeast hpos
  obtain ⟨hdvd, hwanted⟩ := hleast.1
  have hrange : rangeFor env = (mulWord (divUp wanted size) size).map (⟨·, size⟩) :=
    rangeFor_eq hg hl
  obtain ⟨notices, hc⟩ := exists_launchRange_course env d earlier
  rw [hrange] at hc
  refine ⟨divUp wanted size * size, hleast, ?_, ?_⟩
  · intro hlimit
    rw [mulWord, if_neg (Nat.not_lt.2 hlimit)] at hc
    exact ⟨notices, hc⟩
  · intro hlimit
    rw [mulWord, if_pos hlimit] at hc
    have hgroups : NdRange.groups ⟨divUp wanted size * size, size⟩ =
        some (divUp wanted size * size / size) :=
      NdRange.groups_of_dvd hpos hdvd
    refine ⟨⟨notices, hc⟩, ?_, hgroups, divUp_mul_lt hpos, ?_⟩
    · apply Nat.div_pos _ hpos
      omega
    · intro hmax hchecked earlier
      apply (hchecked earlier _).of_fits
      · rw [hgroups]
        exact Option.some_ne_none _
      · dsimp only
        omega

theorem launchRange_least_boundary :
    let full := onHost {} 1 [("global_size", "18446744073709551552"), ("local_size", "many")]
    let beyond := onHost {} 1 [("global_size", "18446744073709551553")]
    full.Settles "global_size" 1024 18446744073709551552 ∧ full.Settles "local_size" 64 64 ∧
    beyond.Settles "global_size" 1024 18446744073709551553 ∧ beyond.Settles "local_size" 64 64 ∧
    (∃ notices : List Notice, Course full.device #[] (launchRange full) (notices.map .notify)
      (.ok ⟨18446744073709551552, 64⟩)) ∧
    (∃ notices : List Notice, Course beyond.device #[] (launchRange beyond) (notices.map .notify)
      (.error (.panicked (.text "attempt to multiply with overflow")))) := by
  intro full beyond
  have hg : full.Settles "global_size" 1024 18446744073709551552 :=
    TestEnv.settles_iff.2 (by cbv)
  have hl : full.Settles "local_size" 64 64 := TestEnv.settles_iff.2 (by cbv)
  have hg' : beyond.Settles "global_size" 1024 18446744073709551553 :=
    TestEnv.settles_iff.2 (by cbv)
  have hl' : beyond.Settles "local_size" 64 64 := TestEnv.settles_iff.2 (by cbv)
  refine ⟨hg, hl, hg', hl', ?_, ?_⟩
  · obtain ⟨least, hleast, -, hfits⟩ := launchRange_least hg hl full.device #[]
    have heq : least = 18446744073709551552 := by
      apply hleast.unique
      exact ⟨⟨by decide, le_rfl⟩, fun n hn ↦ hn.2⟩
    subst heq
    exact (hfits (by decide)).1
  · obtain ⟨least, hleast, hpanics, -⟩ := launchRange_least hg' hl' beyond.device #[]
    apply hpanics
    have hdvd : 64 ∣ least := hleast.1.1
    have hwanted : 18446744073709551553 ≤ least := hleast.1.2
    rw [wordLimit]
    omega

end Suite

end Conformance
