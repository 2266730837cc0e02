import Conformance.Device.Host

namespace Conformance

structure NdRange.Fits (r : NdRange) (limit : Nat) : Prop where
  pos : 0 < r.localSize
  le_limit : r.localSize ≤ limit
  dvd : r.localSize ∣ r.globalSize

/-- Every index of the range has one item, in one of the work-groups. In which order the items run
is left open. -/
structure NdRange.Covered (r : NdRange) (items : List WorkItem) : Prop where
  ids : (items.map WorkItem.globalId).Perm (List.range r.globalSize)
  groups : ∀ item ∈ items, item.groupId < r.globalSize / r.localSize

namespace NdRange

variable {r : NdRange} {items : List WorkItem}

theorem Fits.of_pos {limit : Nat} (h : r.Fits (max limit 1)) (hpos : 0 < limit) :
    r.Fits limit :=
  ⟨h.pos, Nat.le_trans h.le_limit (by omega), h.dvd⟩

theorem Covered.lt (h : r.Covered items) {item : WorkItem} (hi : item ∈ items) :
    item.globalId < r.globalSize :=
  List.mem_range.1 (h.ids.subset (List.mem_map_of_mem hi))

theorem Covered.nodup (h : r.Covered items) : (items.map WorkItem.globalId).Nodup :=
  h.ids.nodup_iff.2 List.nodup_range

theorem Covered.length_eq (h : r.Covered items) : items.length = r.globalSize := by
  have hl := h.ids.length_eq
  rwa [List.length_map, List.length_range] at hl

theorem groups_of_dvd (hpos : 0 < r.localSize) (hd : r.localSize ∣ r.globalSize) :
    r.groups = some (r.globalSize / r.localSize) := by
  refine if_neg ?_
  rintro (h0 | h0)
  · omega
  · exact h0 (Nat.mod_eq_zero_of_dvd hd)

end NdRange

namespace HostDevice

variable {r : NdRange} {limit : Nat}

theorem flatMap_groupItems_ids (localSize groups : Nat) :
    ((List.range groups).flatMap (groupItems localSize)).map WorkItem.globalId =
      List.range (groups * localSize) := by
  induction groups with
  | zero => rw [Nat.zero_mul]; rfl
  | succ groups ih =>
    have hg : (groupItems localSize groups).map WorkItem.globalId =
        (List.range localSize).map (groups * localSize + ·) := by
      rw [groupItems, List.map_map]
      rfl
    rw [List.range_succ, List.flatMap_append, List.map_append, ih, List.flatMap_singleton, hg,
      Nat.succ_mul, List.range_add]

theorem groupId_of_mem {localSize groups : Nat} {item : WorkItem}
    (h : item ∈ (List.range groups).flatMap (groupItems localSize)) : item.groupId < groups := by
  obtain ⟨group, hg, hi⟩ := List.mem_flatMap.1 h
  obtain ⟨lane, -, rfl⟩ := List.mem_map.1 hi
  exact List.mem_range.1 hg

theorem launch_of_fits (h : r.Fits limit) :
    launch limit r = ⟨(List.range (r.globalSize / r.localSize)).flatMap (groupItems r.localSize),
      .completed⟩ := by
  rw [launch, NdRange.groups_of_dvd h.pos h.dvd]
  exact if_neg (Nat.not_lt.2 h.le_limit)

theorem launch_covers (h : r.Fits limit) :
    (launch limit r).ending = .completed ∧ r.Covered (launch limit r).items := by
  rw [launch_of_fits h]
  refine ⟨rfl, ?_, fun item hi ↦ groupId_of_mem hi⟩
  rw [flatMap_groupItems_ids, Nat.div_mul_cancel h.dvd]

theorem launch_of_uneven (h : r.localSize = 0 ∨ ¬ r.localSize ∣ r.globalSize) :
    launch limit r = ⟨[], .refused (.invalidWorkGroup r.globalSize r.localSize)⟩ := by
  have hg : r.groups = none :=
    if_pos (h.imp_right fun hd h0 ↦ hd (Nat.dvd_of_mod_eq_zero h0))
  rw [launch, hg]

theorem launch_of_oversized (hd : r.localSize ∣ r.globalSize) (hl : limit < r.localSize) :
    launch limit r = ⟨[], .refused (.workGroupTooLarge r.localSize limit)⟩ := by
  rw [launch, NdRange.groups_of_dvd (Nat.zero_lt_of_lt hl) hd]
  exact if_pos hl

end HostDevice

end Conformance
