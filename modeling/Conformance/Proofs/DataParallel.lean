import Conformance.Proofs.HostLaunch
import Conformance.Proofs.Samples
import Conformance.Suite.Copy
import Conformance.Suite.Reduction
import Mathlib.Algebra.Order.BigOperators.Group.List
import Mathlib.Data.Finset.Card

namespace Conformance.Suite

open Coverage

variable {r : NdRange} {items : List WorkItem} {item : WorkItem}

theorem le_roundUp (bytes : Nat) {alignment : Nat} (h : 0 < alignment) :
    bytes ≤ roundUp bytes alignment := by
  have hdiv := Nat.div_add_mod' (bytes + alignment - 1) alignment
  have hmod := Nat.mod_lt (bytes + alignment - 1) h
  unfold roundUp divUp
  omega

theorem alignment_pos (t : DataType) : 0 < t.alignment := by
  induction t with
  | scalar s => cases s <;> decide
  | vector t width ih => exact ih

theorem header_le_slotBytes (header : Nat) (t : DataType) : header ≤ slotBytes header t := by
  have hpos : 0 < max 4 t.alignment := by omega
  have hvalue := le_roundUp header (alignment_pos t)
  have hslot := le_roundUp (roundUp header t.alignment + t.bytes) hpos
  unfold slotBytes
  omega

example : [.scalar .bool, .scalar .u64, .vector (.scalar .bool) 8, .vector (.scalar .u32) 16].map
    Copy.slotBytes = [8, 16, 12, 68] := by decide

example : [.scalar .bool, .scalar .u32, .scalar .u64].map Reduction.slotBytes = [8, 12, 16] := by
  decide

theorem lt_of_room {slots header : Nat} {t : DataType} (hh : 4 ≤ header)
    (h : slots * slotBytes header t < memoryLimit) : slots < 2 ^ 61 := by
  have hle := Nat.mul_le_mul_left slots (hh.trans (header_le_slotBytes header t))
  unfold memoryLimit at h
  omega

namespace Copy

/-- A list takes the slots of the range for this type. -/
def HasRoom (r : NdRange) (t : DataType) : Prop := r.globalSize * slotBytes t < memoryLimit

instance (r : NdRange) (t : DataType) : Decidable (HasRoom r t) :=
  inferInstanceAs (Decidable (_ < _))

theorem hasRoom_of_mem {v : Visit} (hn : r.globalSize ≤ 2 ^ 21)
    (hv : v ∈ TypePack.scalars.visitsWithVectors) : HasRoom r v.type := by
  have hb : ∀ v ∈ TypePack.scalars.visitsWithVectors, slotBytes v.type ≤ 136 := by decide
  exact (Nat.mul_le_mul hn (hb v hv)).trans_lt (by decide)

variable {t : DataType} {s : Slots t} {count : Nat}

theorem fault_eq_none (hi : item.globalId < count)
    (hw : item.globalId + t.reach < wordLimit) : fault t count item = none := by
  rw [fault, if_neg (Nat.not_le.2 hi), t.sample_eq_value hw]

theorem Slots.write_of_free (hf : s.values[item.globalId]? = some none)
    (hw : item.globalId + t.reach < wordLimit) : s.write item =
      { s with values := s.values.setIfInBounds item.globalId (some (t.value item.globalId)) } := by
  rw [write, hf, t.sample_eq_value hw]

def lost (count : Nat) (items : List WorkItem) : Nat :=
  (List.range count).countP fun i ↦ i ∉ items.map WorkItem.globalId

def repeated (items : List WorkItem) : Nat :=
  items.length - (items.map WorkItem.globalId).dedup.length

theorem dedup_append_length {l : List Nat} {a : Nat} :
    (l ++ [a]).dedup.length = if a ∈ l then l.dedup.length else l.dedup.length + 1 := by
  rw [← List.card_toFinset, ← List.card_toFinset, List.toFinset_append, List.toFinset_cons,
    List.toFinset_nil, LawfulSingleton.insert_empty_eq, Finset.union_comm,
    ← Finset.insert_eq]
  split
  · next h => rw [Finset.insert_eq_self.2 (List.mem_toFinset.2 h)]
  · next h => rw [Finset.card_insert_of_notMem (mt List.mem_toFinset.1 h)]

/-- The slots hold samples just where an item ran, and all further items were counted. -/
structure Slots.Tells (s : Slots t) (count : Nat) (items : List WorkItem) : Prop where
  values : ∀ i, s.values[i]? = if i < count then
    some (if i ∈ items.map WorkItem.globalId then some (t.value i) else none) else none
  repeats : s.repeats + (items.map WorkItem.globalId).dedup.length = items.length

theorem Slots.Tells.write (h : s.Tells count items) (hi : item.globalId < count)
    (hw : item.globalId + t.reach < wordLimit) : (s.write item).Tells count (items ++ [item]) := by
  have hv := h.values item.globalId
  rw [if_pos hi] at hv
  by_cases hm : item.globalId ∈ items.map WorkItem.globalId
  · -- The slot is taken, so that the item only counts.
    rw [if_pos hm] at hv
    have hs : s.write item = { s with repeats := s.repeats + 1 } := by
      rw [Slots.write, hv]
    constructor
    · intro i
      rw [hs, h.values]
      by_cases hi' : i = item.globalId
      · subst hi'
        simp [hm]
      · simp [hi']
    · rw [hs, List.map_append, List.map_singleton, dedup_append_length, if_pos hm,
        List.length_append, List.length_singleton, ← h.repeats]
      exact Nat.add_right_comm _ _ _
  · rw [if_neg hm] at hv
    have hsize : item.globalId < s.values.size := (Array.getElem?_eq_some_iff.1 hv).1
    rw [Slots.write_of_free hv hw]
    constructor
    · intro i
      rw [Array.getElem?_setIfInBounds, h.values]
      by_cases hi' : item.globalId = i
      · subst hi'
        simp [hsize, hi]
      · have hne : i ≠ item.globalId := fun h ↦ hi' h.symm
        simp [hi', hne]
    · rw [List.map_append, List.map_singleton, dedup_append_length, if_neg hm,
        List.length_append, List.length_singleton, ← h.repeats]
      exact (Nat.add_assoc _ _ _).symm

theorem Slots.ofItems_tells (hi : ∀ item ∈ items, item.globalId < count)
    (hw : count + t.reach ≤ wordLimit) : (ofItems t count items).Tells count items := by
  induction items using List.reverseRecOn with
  | nil =>
    constructor
    · intro i
      rw [ofItems, List.foldl_nil, Array.getElem?_replicate]
      simp
    · rfl
  | append_singleton items item ih =>
    have hlt : item.globalId < count := hi item (by simp)
    rw [ofItems, List.foldl_append, List.foldl_cons, List.foldl_nil]
    apply Slots.Tells.write (ih fun item h ↦ hi item (List.mem_append_left _ h)) hlt
    omega

theorem Slots.Tells.wrong_eq (h : s.Tells count items) :
    s.wrong ((List.range count).map t.value) = lost count items := by
  have hv : s.values.toList = (List.range count).map fun i ↦
      if i ∈ items.map WorkItem.globalId then some (t.value i) else none := by
    refine List.ext_getElem? fun i ↦ ?_
    rw [Array.getElem?_toList, h.values, List.getElem?_map]
    split
    · next hi => rw [List.getElem?_range hi]; rfl
    · next hi => rw [List.getElem?_eq_none (by rwa [List.length_range, ← Nat.not_lt])]; rfl
  rw [wrong, hv, List.zip_map', ← List.countP_eq_length_filter, List.countP_map, lost]
  refine List.countP_congr fun i _ ↦ ?_
  by_cases hm : i ∈ items.map WorkItem.globalId
  · have hb : (some (t.value i) == some (t.value i)) = true := t.value_beq i
    simp only [Function.comp_apply, hm, if_true, hb]
    decide
  · have hb : ((none : Option t.Value) == some (t.value i)) = false := rfl
    simp only [Function.comp_apply, hm, if_false, hb]
    decide

theorem Slots.Tells.repeats_eq (h : s.Tells count items) : s.repeats = repeated items :=
  Nat.eq_sub_of_add_eq h.repeats

theorem lost_eq_zero_iff :
    lost count items = 0 ↔ ∀ i < count, i ∈ items.map WorkItem.globalId := by
  simp [lost, List.countP_eq_zero]

theorem repeated_eq_zero_iff : repeated items = 0 ↔ (items.map WorkItem.globalId).Nodup := by
  have hl : (items.map WorkItem.globalId).length = items.length := List.length_map _
  have hs := (List.dedup_sublist (items.map WorkItem.globalId)).length_le
  rw [repeated, ← List.dedup_eq_self]
  constructor
  · intro h
    exact (List.dedup_sublist _).eq_of_length (by omega)
  · intro h
    rw [h]
    omega

theorem lost_of_covered (h : r.Covered items) : lost r.globalSize items = 0 :=
  lost_eq_zero_iff.2 fun _ hi ↦ h.ids.mem_iff.2 (List.mem_range.2 hi)

theorem repeated_of_covered (h : r.Covered items) : repeated items = 0 :=
  repeated_eq_zero_iff.2 h.nodup

end Copy

namespace Reduction

def HasRoom (r : NdRange) (t : DataType) : Prop :=
  r.globalSize / r.localSize * slotBytes t < memoryLimit

instance (r : NdRange) (t : DataType) : Decidable (HasRoom r t) :=
  inferInstanceAs (Decidable (_ < _))

theorem hasRoom_scalar (hn : r.globalSize ≤ 2 ^ 21) (s : Scalar) : HasRoom r (.scalar s) := by
  have hb : slotBytes (.scalar s) ≤ 16 := by cases s <;> decide
  exact (Nat.mul_le_mul ((Nat.div_le_self _ _).trans hn) hb).trans_lt (by decide)

variable {t : DataType} {s : Scalar} {partials : Array Nat}

theorem fault_eq_none {groups : Nat} (hi : item.groupId < groups)
    (hw : item.globalId + t.reach < wordLimit) : fault t groups item = none := by
  rw [fault, if_neg (Nat.not_le.2 hi), t.sample_eq_value hw]

theorem sum_modify {ns : List Nat} {g : Nat} (hg : g < ns.length) (w : Nat) :
    (ns.modify g (· + w)).sum = ns.sum + w := by
  induction ns generalizing g with
  | nil => cases hg
  | cons n ns ih =>
    cases g with
    | zero =>
      rw [List.modify_zero_cons, List.sum_cons, List.sum_cons]
      omega
    | succ g =>
      rw [List.modify_succ_cons, List.sum_cons, List.sum_cons, ih (Nat.lt_of_succ_lt_succ hg)]
      omega

theorem accumulate_tally (hg : item.groupId < partials.size)
    (hlimit : s.Holds (partials.toList.sum + s.weight item.globalId)) :
    accumulate (t := .scalar s) (partials.map s.tally) item =
      (partials.modify item.groupId (· + s.weight item.globalId)).map s.tally := by
  have hle : partials[item.groupId] ≤ partials.toList.sum :=
    List.le_sum_of_mem (Array.getElem_mem_toList hg)
  have hs : (DataType.scalar s).sample item.globalId = .ok (s.tally (s.weight item.globalId)) :=
    congrArg Except.ok (s.sample_eq_tally item.globalId)
  rw [accumulate, hs]
  refine Array.ext_getElem? fun i ↦ ?_
  simp only [Array.getElem?_modify, Array.getElem?_map]
  by_cases hi : item.groupId = i
  · subst hi
    rw [if_pos rfl, if_pos rfl, Array.getElem?_eq_getElem hg]
    exact congrArg some (s.combine_tally (hlimit.mono (Nat.add_le_add_right hle _)))
  · rw [if_neg hi, if_neg hi]

theorem foldl_accumulate_tally (hg : ∀ item ∈ items, item.groupId < partials.size)
    (hlimit : s.Holds (partials.toList.sum + s.load (items.map WorkItem.globalId))) :
    ∃ sums : Array Nat,
      items.foldl (accumulate (t := .scalar s)) (partials.map s.tally) = sums.map s.tally ∧
      sums.toList.sum = partials.toList.sum + s.load (items.map WorkItem.globalId) := by
  -- Each item moves its weight from those to come into the partial sums, so the bound stays.
  induction items generalizing partials with
  | nil => exact ⟨partials, rfl, rfl⟩
  | cons item items ih =>
    obtain ⟨hgi, hg⟩ := List.forall_mem_cons.1 hg
    have hsum : (partials.modify item.groupId (· + s.weight item.globalId)).toList.sum =
        partials.toList.sum + s.weight item.globalId := by
      rw [Array.toList_modify, sum_modify hgi]
    rw [List.map_cons, Scalar.load_cons, ← Nat.add_assoc] at hlimit ⊢
    have hg' : ∀ item' ∈ items, item'.groupId <
        (partials.modify item.groupId (· + s.weight item.globalId)).size := by
      simpa only [Array.size_modify] using hg
    rw [← hsum] at hlimit ⊢
    obtain ⟨sums, hfold, hsums⟩ := ih hg' hlimit
    refine ⟨sums, ?_, hsums⟩
    rw [hsum] at hlimit
    rw [List.foldl_cons, accumulate_tally hgi (hlimit.mono (Nat.le_add_right _ _)), hfold]

theorem total_tally (ns : List Nat) (h : s.Holds ns.sum) :
    total (.scalar s) (ns.map s.tally) = s.tally ns.sum := by
  rw [← Nat.zero_add ns.sum] at h
  have hf := s.foldl_combine_tally ns h
  rwa [s.tally_zero, Nat.zero_add] at hf

theorem total_samples {indices : List Nat} (h : s.Holds (s.load indices)) :
    total (.scalar s) (indices.map (DataType.scalar s).value) = s.tally (s.load indices) := by
  rw [Scalar.load, ← total_tally _ h, List.map_map]
  exact congrArg _ (List.map_congr_left fun i _ ↦ s.sample_eq_tally i)

/-- Whichever way the samples are shared out to the work-groups, they come to the same sum. -/
theorem totalOfItems_eq {groups : Nat} (hg : ∀ item ∈ items, item.groupId < groups)
    (h : s.Holds (s.load (items.map WorkItem.globalId))) :
    totalOfItems (.scalar s) groups items = s.tally (s.load (items.map WorkItem.globalId)) := by
  have hzero : (Array.replicate groups 0).toList.sum = 0 := by simp
  have hg' : ∀ item ∈ items, item.groupId < (Array.replicate groups 0).size := by
    simpa only [Array.size_replicate] using hg
  have hlimit : s.Holds ((Array.replicate groups 0).toList.sum +
      s.load (items.map WorkItem.globalId)) := by
    rwa [hzero, Nat.zero_add]
  obtain ⟨sums, hfold, hsums⟩ := foldl_accumulate_tally hg' hlimit
  rw [Array.map_replicate, s.tally_zero] at hfold
  rw [hzero, Nat.zero_add] at hsums
  have hz : (DataType.scalar s).zero = s.zero := rfl
  rw [← hsums] at h
  rw [totalOfItems, hz, hfold, Array.toList_map, total_tally _ h, hsums]

theorem totals_beq (ht : t ∈ Scalar.all.map DataType.scalar) (h : r.Covered items)
    (hn : r.globalSize ≤ 2 ^ 21) :
    (totalOfItems t (r.globalSize / r.localSize) items ==
      total t ((List.range r.globalSize).map t.value)) = true := by
  obtain ⟨s, -, rfl⟩ := List.mem_map.1 ht
  have hrange : s.Holds (s.load (List.range r.globalSize)) := s.holds_load_range hn
  have hitems : s.load (items.map WorkItem.globalId) = s.load (List.range r.globalSize) :=
    s.load_perm h.ids
  rw [totalOfItems_eq h.groups (hitems ▸ hrange), total_samples hrange, hitems]
  exact (s.equal_tally_iff hrange hrange).2 rfl

end Reduction

end Conformance.Suite
