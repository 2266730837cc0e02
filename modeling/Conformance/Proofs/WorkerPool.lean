import Conformance.Proofs.HostLaunch
import Conformance.Word
import Mathlib.Algebra.GroupWithZero.Nat
import Mathlib.Data.List.Nodup
import Mathlib.Logic.Relation

namespace Conformance.HostDevice

/-- What a worker is about to do. It is gone once there was no group left for it, and falls where an
index does not fit a word. -/
inductive Worker
  | claim
  | run (group lane : Nat)
  | gone
  | fallen (cause : Overflow)
  deriving DecidableEq, Repr

structure Pool where
  workers : List Worker
  /-- The group that the next claim gives out. It is a word, and starts over after the last one. -/
  counter : Nat
  calls : List WorkItem

def laneItem (localSize group lane : Nat) : Except Overflow WorkItem := do
  return ⟨← addWord (← mulWord group localSize) lane, lane, group⟩

namespace Worker

def turn (localSize groups counter : Nat) : Worker → Option (Worker × Nat × List WorkItem)
  | claim =>
    some (if counter < groups then run counter 0 else gone, (counter + 1) % wordLimit, [])
  | run group lane =>
    if lane < localSize then match laneItem localSize group lane with
      | .ok item => some (run group (lane + 1), counter, [item])
      | .error cause => some (fallen cause, counter, [])
    else some (claim, counter, [])
  | gone | fallen _ => none

def pending (localSize : Nat) : Worker → List WorkItem
  | run group lane => (groupItems localSize group).drop lane
  | claim | gone | fallen _ => []

def work (localSize : Nat) : Worker → Nat
  | claim => 1
  | run _ lane => localSize - lane + 2
  | gone | fallen _ => 0

end Worker

namespace Pool

open Relation (ReflTransGen)

inductive Step (localSize groups : Nat) : Pool → Pool → Prop
  | mk {before after : List Worker} {w w' : Worker} {counter counter' : Nat}
      {calls calls' : List WorkItem} :
      w.turn localSize groups counter = some (w', counter', calls') →
      Step localSize groups ⟨before ++ w :: after, counter, calls⟩
        ⟨before ++ w' :: after, counter', calls ++ calls'⟩

abbrev Reaches (localSize groups : Nat) : Pool → Pool → Prop :=
  ReflTransGen (Step localSize groups)

def size (threads groups : Nat) : Nat := max (min threads groups) 1

def start (threads groups : Nat) : Pool := ⟨List.replicate (size threads groups) .claim, 0, []⟩

def Over (p : Pool) : Prop := ∀ w ∈ p.workers, w = .gone

def unclaimed (localSize groups claims : Nat) : List WorkItem :=
  ((List.range groups).drop claims).flatMap (groupItems localSize)

/-- After so many claims, every item of the range has been run, is in the hands of a worker, or
belongs to a group that is still to be claimed. -/
structure Sound (localSize groups threads claims : Nat) (p : Pool) : Prop where
  counter : p.counter = claims % wordLimit
  length : p.workers.length = size threads groups
  claims_le : claims ≤ groups + p.workers.count .gone
  claimed : ∀ group lane, .run group lane ∈ p.workers → group < groups
  left : .gone ∈ p.workers → groups ≤ claims
  upright : ∀ cause, .fallen cause ∉ p.workers
  items : ∀ item, p.calls.count item + (p.workers.flatMap (Worker.pending localSize)).count item +
    (unclaimed localSize groups claims).count item =
      ((List.range groups).flatMap (groupItems localSize)).count item

def work (localSize groups claims : Nat) (p : Pool) : Nat :=
  (groups - claims) * (localSize + 2) + (p.workers.map (Worker.work localSize)).sum

def Progress (localSize groups threads claims : Nat) (p p' : Pool) : Prop :=
  ∃ claims', p'.Sound localSize groups threads claims' ∧
    p'.work localSize groups claims' < p.work localSize groups claims

variable {localSize groups threads claims claims' counter counter' : Nat} {p p' p₀ : Pool}
variable {before after : List Worker} {w w' : Worker} {calls calls' : List WorkItem}

theorem unclaimed_of_lt (h : claims < groups) : unclaimed localSize groups claims =
    groupItems localSize claims ++ unclaimed localSize groups (claims + 1) := by
  have hl : claims < (List.range groups).length := by rwa [List.length_range]
  rw [unclaimed, List.drop_eq_getElem_cons hl, List.flatMap_cons, List.getElem_range]
  rfl

theorem unclaimed_of_le (h : groups ≤ claims) : unclaimed localSize groups claims = [] := by
  rw [unclaimed, List.drop_eq_nil_of_le (by rwa [List.length_range])]
  rfl

theorem start_sound (localSize groups threads : Nat) :
    (start threads groups).Sound localSize groups threads 0 where
  counter := rfl
  length := List.length_replicate
  claims_le := Nat.zero_le _
  claimed group lane h := by cases List.eq_of_mem_replicate h
  left h := by cases List.eq_of_mem_replicate h
  upright cause h := by cases List.eq_of_mem_replicate h
  items item := by
    have hp : (start threads groups).workers.flatMap (Worker.pending localSize) = [] := by
      rw [List.flatMap_eq_nil_iff]
      intro w hw
      rw [List.eq_of_mem_replicate hw]
      rfl
    rw [hp, unclaimed, List.drop_zero]
    simp [start]

theorem Sound.replace
    (hs : Sound localSize groups threads claims ⟨before ++ w :: after, counter, calls⟩)
    (hcounter : counter' = claims' % wordLimit) (hmore : claims ≤ claims')
    (hle : claims' ≤ groups + (before ++ w' :: after).count .gone)
    (hclaimed : ∀ group lane, w' = .run group lane → group < groups)
    (hleft : w' = .gone → groups ≤ claims') (hupright : ∀ cause, w' ≠ .fallen cause)
    (hitems : ∀ item, calls'.count item + (w'.pending localSize).count item +
      (unclaimed localSize groups claims').count item = (w.pending localSize).count item +
        (unclaimed localSize groups claims).count item) :
    Sound localSize groups threads claims' ⟨before ++ w' :: after, counter', calls ++ calls'⟩ where
  counter := hcounter
  length := by
    have ho := hs.length
    simp only [List.length_append, List.length_cons] at ho ⊢
    exact ho
  claims_le := hle
  claimed group lane h := by
    have ho := hs.claimed group lane
    simp only [List.mem_append, List.mem_cons] at h ho
    rcases h with h | h | h
    · exact ho (.inl h)
    · exact hclaimed group lane h.symm
    · exact ho (.inr (.inr h))
  left h := by
    have ho := hs.left
    simp only [List.mem_append, List.mem_cons] at h ho
    rcases h with h | h | h
    · exact Nat.le_trans (ho (.inl h)) hmore
    · exact hleft h.symm
    · exact Nat.le_trans (ho (.inr (.inr h))) hmore
  upright cause h := by
    have ho := hs.upright cause
    simp only [List.mem_append, List.mem_cons, not_or] at h ho
    rcases h with h | h | h
    · exact ho.1 h
    · exact hupright cause h.symm
    · exact ho.2.2 h
  items item := by
    have ho := hs.items item
    have hn := hitems item
    simp only [List.flatMap_append, List.flatMap_cons, List.count_append] at ho ⊢
    omega

theorem work_replace_lt (h : (groups - claims') * (localSize + 2) + w'.work localSize <
      (groups - claims) * (localSize + 2) + w.work localSize) :
    work localSize groups claims' ⟨before ++ w' :: after, counter', calls'⟩ <
      work localSize groups claims ⟨before ++ w :: after, counter, calls⟩ := by
  simp only [work, List.map_append, List.map_cons, List.sum_append, List.sum_cons]
  omega

/-- The counter has not started over as long as a worker comes for a group. -/
theorem Sound.counter_eq
    (hs : Sound localSize groups threads claims ⟨before ++ .claim :: after, counter, calls⟩)
    (hclaims : groups + size threads groups ≤ wordLimit) : counter = claims := by
  have hlength := hs.length
  have hle := hs.claims_le
  have hb : before.count .gone ≤ before.length := List.count_le_length
  have ha : after.count .gone ≤ after.length := List.count_le_length
  simp only [List.length_append, List.length_cons] at hlength
  simp only [List.count_append, List.count_cons, beq_iff_eq, reduceCtorEq, if_false] at hle
  exact hs.counter.trans (Nat.mod_eq_of_lt (by omega))

theorem Sound.take
    (hs : Sound localSize groups threads claims ⟨before ++ .claim :: after, claims, calls⟩)
    (hc : claims < groups) :
    Progress localSize groups threads claims ⟨before ++ .claim :: after, claims, calls⟩
      ⟨before ++ .run claims 0 :: after, (claims + 1) % wordLimit, calls ++ []⟩ := by
  refine ⟨claims + 1, hs.replace rfl (by omega) (by omega) ?_ nofun nofun ?_, work_replace_lt ?_⟩
  · rintro group lane ⟨⟩
    exact hc
  · intro item
    rw [unclaimed_of_lt hc, List.count_append, Worker.pending, List.drop_zero]
    simp [Worker.pending]
  · have hg : groups - claims = groups - (claims + 1) + 1 := by omega
    rw [hg, Nat.succ_mul]
    simp only [Worker.work]
    omega

theorem Sound.leave
    (hs : Sound localSize groups threads claims ⟨before ++ .claim :: after, claims, calls⟩)
    (hc : groups ≤ claims) :
    Progress localSize groups threads claims ⟨before ++ .claim :: after, claims, calls⟩
      ⟨before ++ .gone :: after, (claims + 1) % wordLimit, calls ++ []⟩ := by
  have hle := hs.claims_le
  simp only [List.count_append, List.count_cons, beq_iff_eq, reduceCtorEq, if_false] at hle
  refine ⟨claims + 1, hs.replace rfl (by omega) ?_ nofun (fun _ ↦ by omega) nofun ?_,
    work_replace_lt ?_⟩
  · rw [List.count_append, List.count_cons_self]
    omega
  · intro item
    rw [unclaimed_of_le hc, unclaimed_of_le (by omega)]
    rfl
  · have hg : groups - claims = 0 := by omega
    have hg' : groups - (claims + 1) = 0 := by omega
    rw [hg, hg']
    exact Nat.lt_succ_self _

variable {group lane : Nat}

theorem Sound.claims_le_replace
    (hs : Sound localSize groups threads claims ⟨before ++ w :: after, counter, calls⟩)
    (hw : w ≠ .gone) (hw' : w' ≠ .gone) :
    claims ≤ groups + (before ++ w' :: after).count .gone := by
  have hle := hs.claims_le
  simp only [List.count_append, List.count_cons, beq_iff_eq, hw, hw', if_false] at hle ⊢
  exact hle

theorem groupItems_drop (group : Nat) (h : lane < localSize) :
    (groupItems localSize group).drop lane =
      ⟨group * localSize + lane, lane, group⟩ :: (groupItems localSize group).drop (lane + 1) := by
  have hl : lane < (groupItems localSize group).length := by simpa [groupItems] using h
  rw [List.drop_eq_getElem_cons hl]
  simp [groupItems]

theorem laneItem_eq (hfit : groups * localSize ≤ wordLimit) (hg : group < groups)
    (hl : lane < localSize) :
    laneItem localSize group lane = .ok ⟨group * localSize + lane, lane, group⟩ := by
  have hnext : (group + 1) * localSize ≤ groups * localSize := Nat.mul_le_mul_right localSize hg
  rw [Nat.succ_mul] at hnext
  have hm : mulWord group localSize = .ok (group * localSize) := if_pos (by omega)
  have ha : addWord (group * localSize) lane = .ok (group * localSize + lane) := if_pos (by omega)
  simp only [laneItem, hm, ha, bind, Except.bind, pure, Except.pure]

theorem Sound.call
    (hs : Sound localSize groups threads claims
      ⟨before ++ .run group lane :: after, counter, calls⟩)
    (hg : group < groups) (hl : lane < localSize) :
    Progress localSize groups threads claims ⟨before ++ .run group lane :: after, counter, calls⟩
      ⟨before ++ .run group (lane + 1) :: after, counter,
        calls ++ [⟨group * localSize + lane, lane, group⟩]⟩ := by
  refine ⟨claims, hs.replace hs.counter (Nat.le_refl _) (hs.claims_le_replace nofun nofun) ?_ nofun
    nofun ?_, work_replace_lt ?_⟩
  · rintro group lane ⟨⟩
    exact hg
  · intro item
    have hd := groupItems_drop group hl
    simp only [Worker.pending, hd, List.count_cons, List.count_nil]
    omega
  · simp only [Worker.work]
    omega

theorem Sound.finish
    (hs : Sound localSize groups threads claims
      ⟨before ++ .run group lane :: after, counter, calls⟩)
    (hl : ¬ lane < localSize) :
    Progress localSize groups threads claims ⟨before ++ .run group lane :: after, counter, calls⟩
      ⟨before ++ .claim :: after, counter, calls ++ []⟩ := by
  refine ⟨claims, hs.replace hs.counter (Nat.le_refl _) (hs.claims_le_replace nofun nofun) nofun
    nofun nofun ?_, work_replace_lt ?_⟩
  · intro item
    have hd : (groupItems localSize group).drop lane = [] :=
      List.drop_eq_nil_of_le (by simpa [groupItems] using hl)
    rw [Worker.pending, Worker.pending, hd]
    rfl
  · simp only [Worker.work]
    omega

theorem Sound.step (hs : p.Sound localSize groups threads claims)
    (hfit : groups * localSize ≤ wordLimit) (hclaims : groups + size threads groups ≤ wordLimit)
    (h : Step localSize groups p p') : Progress localSize groups threads claims p p' := by
  cases h with
  | @mk before after w w' counter counter' calls calls' ht =>
    cases w with
    | claim =>
      obtain rfl := hs.counter_eq hclaims
      by_cases hc : counter < groups
      · simp only [Worker.turn, hc, if_true, Option.some.injEq, Prod.mk.injEq] at ht
        obtain ⟨rfl, rfl, rfl⟩ := ht
        exact hs.take hc
      · simp only [Worker.turn, hc, if_false, Option.some.injEq, Prod.mk.injEq] at ht
        obtain ⟨rfl, rfl, rfl⟩ := ht
        exact hs.leave (by omega)
    | run group lane =>
      have hg := hs.claimed group lane (by simp)
      by_cases hl : lane < localSize
      · simp only [Worker.turn, hl, if_true, laneItem_eq hfit hg hl, Option.some.injEq,
          Prod.mk.injEq] at ht
        obtain ⟨rfl, rfl, rfl⟩ := ht
        exact hs.call hg hl
      · simp only [Worker.turn, hl, if_false, Option.some.injEq, Prod.mk.injEq] at ht
        obtain ⟨rfl, rfl, rfl⟩ := ht
        exact hs.finish hl
    | gone | fallen _ => cases ht

theorem Sound.reach (hs : p.Sound localSize groups threads claims)
    (hfit : groups * localSize ≤ wordLimit) (hclaims : groups + size threads groups ≤ wordLimit)
    (h : Reaches localSize groups p p') : ∃ claims', p'.Sound localSize groups threads claims' := by
  induction h with
  | refl => exact ⟨claims, hs⟩
  | tail _ h ih =>
    obtain ⟨claims', hs'⟩ := ih
    obtain ⟨claims'', hs'', -⟩ := hs'.step hfit hclaims h
    exact ⟨claims'', hs''⟩

/-- No schedule goes on for ever. -/
theorem Sound.acc (hs : p.Sound localSize groups threads claims)
    (hfit : groups * localSize ≤ wordLimit) (hclaims : groups + size threads groups ≤ wordLimit) :
    Acc (fun p' p ↦ Step localSize groups p p') p := by
  induction hn : p.work localSize groups claims using Nat.strongRecOn generalizing p claims with
  | ind n ih =>
    refine ⟨p, fun p' h ↦ ?_⟩
    obtain ⟨claims', hs', hlt⟩ := hs.step hfit hclaims h
    exact ih _ (hn ▸ hlt) hs' rfl

theorem Sound.over_or_step (hs : p.Sound localSize groups threads claims)
    (hfit : groups * localSize ≤ wordLimit) :
    p.Over ∨ ∃ p', Step localSize groups p p' := by
  by_cases ho : p.Over
  · exact .inl ho
  obtain ⟨workers, counter, calls⟩ := p
  simp only [Over, not_forall] at ho
  obtain ⟨w, hw, hgone⟩ := ho
  obtain ⟨before, after, rfl⟩ := List.append_of_mem hw
  have hturn : ∃ x, w.turn localSize groups counter = some x := by
    cases w with
    | claim => exact ⟨_, rfl⟩
    | run group lane =>
      have hg := hs.claimed group lane hw
      by_cases hl : lane < localSize
      · simp only [Worker.turn, hl, if_true, laneItem_eq hfit hg hl]
        exact ⟨_, rfl⟩
      · simp only [Worker.turn, hl, if_false]
        exact ⟨_, rfl⟩
    | gone => exact absurd rfl hgone
    | fallen cause => exact absurd hw (hs.upright cause)
  obtain ⟨⟨w', counter', calls'⟩, ht⟩ := hturn
  exact .inr ⟨_, .mk ht⟩

/-- Once all workers are gone, each item has been run as often as the range has it. -/
theorem Sound.perm_of_over (hs : p.Sound localSize groups threads claims) (ho : p.Over) :
    p.calls.Perm ((List.range groups).flatMap (groupItems localSize)) := by
  have hpending : p.workers.flatMap (Worker.pending localSize) = [] := by
    rw [List.flatMap_eq_nil_iff]
    intro w hw
    rw [ho w hw]
    rfl
  have hgone : .gone ∈ p.workers := by
    have hpos : 0 < p.workers.length := by
      rw [hs.length, size]
      omega
    obtain ⟨w, hw⟩ := List.exists_mem_of_length_pos hpos
    exact ho w hw ▸ hw
  refine List.perm_iff_count.2 fun item ↦ ?_
  have hi := hs.items item
  rw [hpending, unclaimed_of_le (hs.left hgone)] at hi
  simpa using hi

/-- What comes of a launch over `r` whose workers start like this, and whose items are `items`. -/
structure Completes (r : NdRange) (p₀ : Pool) (items : List WorkItem) : Prop where
  /-- No worker falls, whatever was done so far. -/
  upright : ∀ p, Reaches r.localSize (r.globalSize / r.localSize) p₀ p →
    ∀ cause, .fallen cause ∉ p.workers
  within : ∀ p, Reaches r.localSize (r.globalSize / r.localSize) p₀ p → ∀ item ∈ p.calls,
    item.groupId < r.globalSize / r.localSize ∧ item.localId < r.localSize ∧
      item.globalId = item.groupId * r.localSize + item.localId ∧ item.globalId < r.globalSize
  /-- No schedule is stuck before all workers are gone, and none goes on for ever. -/
  goes_on : ∀ p, Reaches r.localSize (r.globalSize / r.localSize) p₀ p →
    p.Over ∨ ∃ p', Step r.localSize (r.globalSize / r.localSize) p p'
  ends : Acc (fun p' p ↦ Step r.localSize (r.globalSize / r.localSize) p p') p₀
  once : ∀ p, Reaches r.localSize (r.globalSize / r.localSize) p₀ p → p.Over →
    (∀ group < r.globalSize / r.localSize, ∀ lane < r.localSize,
      p.calls.count ⟨group * r.localSize + lane, lane, group⟩ = 1) ∧
    (p.calls.map WorkItem.globalId).Perm (List.range r.globalSize) ∧ p.calls.Perm items

variable {r : NdRange} {limit : Nat}

theorem mem_items {item : WorkItem}
    (h : item ∈ (List.range groups).flatMap (groupItems localSize)) :
    item.groupId < groups ∧ item.localId < localSize ∧
      item.globalId = item.groupId * localSize + item.localId := by
  obtain ⟨group, hg, hi⟩ := List.mem_flatMap.1 h
  obtain ⟨lane, hl, rfl⟩ := List.mem_map.1 hi
  exact ⟨List.mem_range.1 hg, List.mem_range.1 hl, rfl⟩

theorem count_items {group lane : Nat} (hg : group < groups) (hl : lane < localSize) :
    ((List.range groups).flatMap (groupItems localSize)).count
      ⟨group * localSize + lane, lane, group⟩ = 1 := by
  have hn : ((List.range groups).flatMap (groupItems localSize)).Nodup := by
    apply List.Nodup.of_map WorkItem.globalId
    rw [flatMap_groupItems_ids]
    exact List.nodup_range
  have hi : (⟨group * localSize + lane, lane, group⟩ : WorkItem) ∈ groupItems localSize group :=
    List.mem_map.2 ⟨lane, List.mem_range.2 hl, rfl⟩
  exact List.count_eq_one_of_mem hn (List.mem_flatMap.2 ⟨group, List.mem_range.2 hg, hi⟩)

theorem Sound.mem_items_of_mem_calls (hs : p.Sound localSize groups threads claims)
    {item : WorkItem} (h : item ∈ p.calls) :
    item ∈ (List.range groups).flatMap (groupItems localSize) := by
  have hc := List.count_pos_iff.2 h
  have hi := hs.items item
  exact List.count_pos_iff.1 (by omega)

theorem start_completes (h : r.Fits limit) (hr : r.globalSize < wordLimit)
    (hclaims : r.globalSize / r.localSize + size threads (r.globalSize / r.localSize) ≤ wordLimit) :
    (start threads (r.globalSize / r.localSize)).Completes r (launch limit r).items := by
  have hglobal : r.globalSize / r.localSize * r.localSize = r.globalSize := Nat.div_mul_cancel h.dvd
  have hfit : r.globalSize / r.localSize * r.localSize ≤ wordLimit := by omega
  have hs := start_sound r.localSize (r.globalSize / r.localSize) threads
  refine ⟨?_, ?_, ?_, hs.acc hfit hclaims, ?_⟩
  · intro p hp
    obtain ⟨claims, hs'⟩ := hs.reach hfit hclaims hp
    exact hs'.upright
  · intro p hp item hi
    obtain ⟨claims, hs'⟩ := hs.reach hfit hclaims hp
    obtain ⟨hg, hl, hid⟩ := mem_items (hs'.mem_items_of_mem_calls hi)
    refine ⟨hg, hl, hid, ?_⟩
    have hnext : (item.groupId + 1) * r.localSize ≤ r.globalSize :=
      hglobal ▸ Nat.mul_le_mul_right r.localSize hg
    rw [Nat.succ_mul] at hnext
    omega
  · intro p hp
    obtain ⟨claims, hs'⟩ := hs.reach hfit hclaims hp
    exact hs'.over_or_step hfit
  · intro p hp ho
    obtain ⟨claims, hs'⟩ := hs.reach hfit hclaims hp
    have hperm := hs'.perm_of_over ho
    refine ⟨fun group hg lane hl ↦ ?_, ?_, ?_⟩
    · rw [hperm.count_eq, count_items hg hl]
    · have hids := hperm.map WorkItem.globalId
      rwa [flatMap_groupItems_ids, hglobal] at hids
    · rwa [launch_of_fits h]

end Pool

/-- A launch on the host refuses a range that does not consist of whole work-groups, and then one
whose work-groups are too large, and runs nothing of it. Of any other range it runs every item once,
however many workers there are and whichever of them claims which group when. -/
theorem launch_runs_each_item_once (c : DeviceConfig) (processors : Nat) (earlier : Array NdRange)
    (r : NdRange) :
    (((ofConfig c processors).launch earlier r).ending =
        .refused (.invalidWorkGroup r.globalSize r.localSize) ↔
      r.localSize = 0 ∨ ¬ r.localSize ∣ r.globalSize) ∧
    (((ofConfig c processors).launch earlier r).ending =
        .refused (.workGroupTooLarge r.localSize c.maxWorkGroupSize) ↔
      ¬ (r.localSize = 0 ∨ ¬ r.localSize ∣ r.globalSize) ∧ c.maxWorkGroupSize < r.localSize) ∧
    (∀ e, ((ofConfig c processors).launch earlier r).ending = .refused e →
      ((ofConfig c processors).launch earlier r).items = []) ∧
    (((ofConfig c processors).launch earlier r).ending = .completed ↔ r.Fits c.maxWorkGroupSize) ∧
    (r.Fits c.maxWorkGroupSize → r.globalSize < wordLimit → ∀ threads,
      r.globalSize / r.localSize + Pool.size threads (r.globalSize / r.localSize) ≤ wordLimit →
      (Pool.start threads (r.globalSize / r.localSize)).Completes r
        ((ofConfig c processors).launch earlier r).items) := by
  have hl : (ofConfig c processors).launch earlier r = launch c.maxWorkGroupSize r := rfl
  rw [hl]
  by_cases hu : r.localSize = 0 ∨ ¬ r.localSize ∣ r.globalSize
  · have hf : ¬ r.Fits c.maxWorkGroupSize := by
      rintro ⟨hpos, -, hd⟩
      rcases hu with h0 | h0
      · omega
      · exact h0 hd
    rw [launch_of_uneven hu]
    simp [hu, hf]
  · obtain ⟨hpos, hd⟩ := not_or.1 hu
    have hd := not_not.1 hd
    by_cases ht : c.maxWorkGroupSize < r.localSize
    · have hf : ¬ r.Fits c.maxWorkGroupSize := fun hf ↦ absurd hf.le_limit (by omega)
      rw [launch_of_oversized hd ht]
      simp [hu, ht, hf]
    · have hf : r.Fits c.maxWorkGroupSize :=
        ⟨Nat.pos_of_ne_zero hpos, by omega, hd⟩
      have he : (launch c.maxWorkGroupSize r).ending = .completed := (launch_covers hf).1
      refine ⟨?_, ?_, ?_, ?_, fun _ hr _ hclaims ↦ Pool.start_completes hf hr hclaims⟩
      · simp [he, hu]
      · simp [he, ht]
      · simp [he]
      · simp [he, hf]

theorem launch_runs_each_item_once_three :
    (⟨8, 4⟩ : NdRange).Fits 256 ∧ 8 < wordLimit ∧ 8 / 4 + Pool.size 3 (8 / 4) ≤ wordLimit ∧
    (Pool.start 3 (8 / 4)).Completes ⟨8, 4⟩
      ((ofConfig { threads := 3 }).launch #[] ⟨8, 4⟩).items := by
  have hf : (⟨8, 4⟩ : NdRange).Fits 256 := ⟨by decide, by decide, by decide⟩
  have hr : 8 < wordLimit := by decide
  have hclaims : 8 / 4 + Pool.size 3 (8 / 4) ≤ wordLimit := by decide
  exact ⟨hf, hr, hclaims,
    (launch_runs_each_item_once { threads := 3 } 1 #[] ⟨8, 4⟩).2.2.2.2 hf hr 3 hclaims⟩

end Conformance.HostDevice
