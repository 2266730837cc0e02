import Conformance.Proofs.HostSuites
import Conformance.Proofs.LaunchRanges
import Conformance.Proofs.Passing

namespace Conformance

open Coverage (DataType Scalar TypePack Visit)
open Script (Course Ends)

/-- The launch over the range is completed, and its items belong to work-groups of the range. -/
structure Launch.Grouped (l : Launch) (r : NdRange) : Prop where
  ending : l.ending = .completed
  lt : ∀ item ∈ l.items, item.groupId < r.globalSize / r.localSize

namespace Suite.Reduction

variable {env : TestEnv} {r : NdRange} {t : DataType} {s : Scalar} {earlier : Array NdRange}
variable {items : List WorkItem} {indices indices' : List Nat}

def sumOver (t : DataType) (indices : List Nat) : t.Value := total t (indices.map t.value)

def disagreement (label : String) (actual expected : t.Value) : List Event :=
  if actual == expected then []
  else [.fail (TestLog.mismatch actual expected (label ++ " sum")) (some .caller)]

theorem sumOver_eq (h : s.Holds (s.load indices)) :
    sumOver (.scalar s) indices = s.tally (s.load indices) :=
  total_samples h

theorem disagreement_eq_nil_iff {label : String} (h : s.Holds (s.load indices))
    (h' : s.Holds (s.load indices')) :
    disagreement label (sumOver (.scalar s) indices) (sumOver (.scalar s) indices') = [] ↔
      sumOver (.scalar s) indices = sumOver (.scalar s) indices' := by
  have hiff := s.equal_tally_iff h h'
  rw [← sumOver_eq h, ← sumOver_eq h'] at hiff
  rw [← hiff, disagreement]
  split
  · next he => exact iff_of_true rfl he
  · next he => exact iff_of_false (List.cons_ne_nil _ _) he

theorem checkType_overflows {v : Visit} (hr : ¬ HasRoom r v.type)
    (hl : lacking? env.device v.type.requires = none) (earlier : Array NdRange) :
    Course env.device earlier (checkType env r v) []
      (.error (.panicked (.text "capacity overflow"))) := by
  unfold checkType
  simp only [hl, reserve, if_pos (Nat.not_lt.1 hr)]
  exact .stop _ _

theorem checkEq_course (d : Device) (earlier : Array NdRange) (label : String)
    (actual expected : t.Value) :
    Course d earlier (Script.checkEq actual expected (label ++ " sum"))
      ((disagreement label actual expected).map .record) (.ok (actual == expected)) := by
  have hc := Script.check_course d earlier (actual == expected)
    (TestLog.mismatch actual expected (label ++ " sum"))
  unfold disagreement
  split
  · next he => rwa [if_pos he] at hc
  · next he => rwa [if_neg he] at hc

theorem sample_of_scalar {v : Visit} (hv : v.type = .scalar s) (i : Nat) :
    v.type.sample i = .ok (v.type.value i) := by
  rw [hv]
  rfl

theorem checkType_course {v : Visit} (hr : HasRoom r v.type)
    (hv : v.type = .scalar s) (hl : lacking? env.device v.type.requires = none)
    (hd : (env.device.launch earlier r).Grouped r) :
    Course env.device earlier (checkType env r v)
      (.launch r :: (disagreement v.label
        (totalOfItems v.type (r.globalSize / r.localSize) (env.device.launch earlier r).items)
        (sumOver v.type (List.range r.globalSize))).map .record) (.ok ()) := by
  have hfault : ∀ item ∈ (env.device.launch earlier r).items,
      fault v.type (r.globalSize / r.localSize) item = none := by
    intro item hi
    rw [fault, if_neg (Nat.not_le.2 (hd.lt item hi)), sample_of_scalar hv]
  have hs : (List.range r.globalSize).mapM v.type.sample =
      .ok ((List.range r.globalSize).map v.type.value) :=
    mapM_eq_ok fun i _ ↦ sample_of_scalar hv i
  unfold checkType
  simp only [hl, reserve_of_lt hr]
  apply (TestEnv.launchItems_course hd.ending hfault).append
  simp only [hs, Script.ofWord]
  rw [← List.append_nil (List.map Deed.record _)]
  apply (checkEq_course _ _ _ _ _).append
  exact .done _ _

theorem totalOfItems_eq_sumOver {groups : Nat} (hg : ∀ item ∈ items, item.groupId < groups)
    (hp : indices.Perm (items.map WorkItem.globalId)) (h : s.Holds (s.load indices)) :
    totalOfItems (.scalar s) groups items = sumOver (.scalar s) indices := by
  rw [sumOver_eq h, s.load_perm hp]
  rw [s.load_perm hp] at h
  exact totalOfItems_eq hg h

/-- A range of two to the power of 21 indices can be summed in every type; any other can in the
types that are no floats. -/
theorem holds_range (hf : s.isFloat = true → r.globalSize ≤ 2 ^ 21) :
    s.Holds (s.load (List.range r.globalSize)) :=
  fun hs ↦ s.holds_load_range (hf hs) hs

theorem checkType_course_of_perm {v : Visit} (hr : HasRoom r v.type)
    (hv : v.type = .scalar s) (hl : lacking? env.device v.type.requires = none)
    (hd : (env.device.launch earlier r).Grouped r)
    (hp : indices.Perm ((env.device.launch earlier r).items.map WorkItem.globalId))
    (h : s.Holds (s.load indices)) :
    Course env.device earlier (checkType env r v)
      (.launch r :: (disagreement v.label (sumOver v.type indices)
        (sumOver v.type (List.range r.globalSize))).map .record) (.ok ()) := by
  have hc := checkType_course hr hv hl hd
  have ht : totalOfItems v.type (r.globalSize / r.localSize) (env.device.launch earlier r).items =
      sumOver v.type indices := by
    rw [hv]
    exact totalOfItems_eq_sumOver hd.lt hp h
  rwa [ht] at hc

theorem scalar_of_mem : ∀ v ∈ TypePack.scalars.visits,
    v.type ∈ Scalar.all.map DataType.scalar := by
  decide

theorem passes_of_covers (hrange : rangeFor env = .ok r) (hn : r.globalSize ≤ 2 ^ 21)
    (hd : ∀ earlier, (env.device.launch earlier r).ending = .completed ∧
      r.Covered (env.device.launch earlier r).items) (earlier : Array NdRange) :
    test.Passes env earlier := by
  have hvisit : ∀ v ∈ TypePack.scalars.visits,
      Ends env.device (checkType env r v) .passed fun _ ↦ True := by
    intro v hv earlier
    obtain ⟨s, -, hs⟩ := List.mem_map.1 (scalar_of_mem v hv)
    cases hl : lacking? env.device v.type.requires with
    | some c =>
      have hnote := Ends.note (d := env.device) (notChecked v.label c) earlier
      simpa only [checkType, hl] using hnote
    | none =>
      obtain ⟨hdone, hcovered⟩ := hd earlier
      have hh : s.Holds (s.load (List.range r.globalSize)) := s.holds_load_range hn
      have hr : HasRoom r v.type := hs ▸ hasRoom_scalar hn s
      have hc := checkType_course_of_perm hr hs.symm hl ⟨hdone, hcovered.groups⟩
        hcovered.ids.symm hh
      have hnone : disagreement v.label (sumOver v.type (List.range r.globalSize))
          (sumOver v.type (List.range r.globalSize)) = [] := by
        rw [← hs]
        exact (disagreement_eq_nil_iff hh hh).2 rfl
      rw [hnone] at hc
      exact ⟨_, (), hc, rfl, trivial⟩
  obtain ⟨notices, hn⟩ := launchRange_course hrange env.device #[]
  have hrun : ((launchRange env).run env.device (.start #[])).2 = .ok r := by
    rw [hn.run_eq rfl]
  refine TestCase.passes_of_ends (Q := fun _ ↦ True) ?_ earlier
  apply (launchRange_ends hrun).1.bind
  intro r' hr'
  rw [hr']
  exact Ends.forM hvisit

/-- What the test makes of a scalar type depends only on which items its launch ran. The partial
sums come to the sum over these items, in any order, and a failure is recorded just if that is not
the sum over the range. -/
theorem sums_tell_which_items_ran (env : TestEnv) (r : NdRange) (hrange : rangeFor env = .ok r) :
    (∀ (s : Scalar) (items : List WorkItem) (indices : List Nat),
      (∀ item ∈ items, item.groupId < r.globalSize / r.localSize) →
      indices.Perm (items.map WorkItem.globalId) → s.Holds (s.load indices) →
      totalOfItems (.scalar s) (r.globalSize / r.localSize) items =
        sumOver (.scalar s) indices) ∧
    (∀ (s : Scalar) (label : String) (earlier : Array NdRange) (indices : List Nat),
      HasRoom r (.scalar s) →
        lacking? env.device s.requires = none → (env.device.launch earlier r).Grouped r →
        indices.Perm ((env.device.launch earlier r).items.map WorkItem.globalId) →
        s.Holds (s.load indices) → (s.isFloat = true → r.globalSize ≤ 2 ^ 21) →
        Course env.device earlier (checkType env r ⟨.scalar s, label⟩)
          (.launch r :: (disagreement label (sumOver (.scalar s) indices)
            (sumOver (.scalar s) (List.range r.globalSize))).map .record) (.ok ()) ∧
        (disagreement label (sumOver (.scalar s) indices)
            (sumOver (.scalar s) (List.range r.globalSize)) = [] ↔
          sumOver (.scalar s) indices = sumOver (.scalar s) (List.range r.globalSize)) ∧
        (indices.Perm (List.range r.globalSize) →
          sumOver (.scalar s) indices = sumOver (.scalar s) (List.range r.globalSize))) ∧
    (r.globalSize ≤ 2 ^ 21 → (∀ earlier, (env.device.launch earlier r).ending = .completed ∧
        r.Covered (env.device.launch earlier r).items) →
      ∀ earlier, test.Passes env earlier) ∧
    (∀ v : Visit, ¬ HasRoom r v.type → lacking? env.device v.type.requires = none →
      ∀ earlier, Course env.device earlier (checkType env r v) []
          (.error (.panicked (.text "capacity overflow")))) := by
  refine ⟨?_, ?_, ?_, ?_⟩
  · intro s items indices hg hp hh
    exact totalOfItems_eq_sumOver hg hp hh
  · intro s label earlier indices hr hl hd hp hh hf
    have hh' : s.Holds (s.load (List.range r.globalSize)) := holds_range hf
    refine ⟨?_, disagreement_eq_nil_iff hh hh', ?_⟩
    · exact checkType_course_of_perm hr rfl hl hd hp hh
    · intro hall
      rw [sumOver_eq hh, sumOver_eq hh', s.load_perm hall]
  · intro hn hd earlier
    exact passes_of_covers hrange hn hd earlier
  · intro v hr hl earlier
    exact checkType_overflows hr hl earlier

def running (items : List WorkItem) : Device where
  name := "running"
  available := true
  has _ := false
  maxWorkGroupSize := 8
  subGroupSize := none
  launch _ _ := ⟨items, .completed⟩

def wanting (count : String) (items : List WorkItem) : TestEnv :=
  ⟨running items, [("global_size", count)]⟩

def swapped : List WorkItem := (List.range 14).reverse.map fun i ↦ ⟨i, i % 8, 1 - i / 8⟩

def reversed : List WorkItem := (List.range 16).reverse.map fun i ↦ ⟨i, i % 8, i / 8⟩

theorem sums_tell_which_items_ran_swapped :
    test.Passes (wanting "16" reversed) #[] ∧
    rangeFor (wanting "16" swapped) = .ok ⟨16, 8⟩ ∧
    totalOfItems (.scalar .u8) 2 swapped = sumOver (.scalar .u8) (List.range 14) ∧
    Course (running swapped) #[] (checkType (wanting "16" swapped) ⟨16, 8⟩ ⟨.scalar .u8, "u8"⟩)
      [.launch ⟨16, 8⟩, .record (.fail "u8 sum: expected 43, got 42" (some .caller))] (.ok ()) ∧
    Course (running swapped) #[] (checkType (wanting "16" swapped) ⟨16, 8⟩ ⟨.scalar .bool, "bool"⟩)
      [.launch ⟨16, 8⟩] (.ok ()) := by
  have hrange : rangeFor (wanting "16" swapped) = .ok ⟨16, 8⟩ := by cbv
  have hg : ∀ item ∈ swapped, item.groupId < 2 := by decide
  have hp : (List.range 14).Perm (swapped.map WorkItem.globalId) := by decide
  have hd : ((running swapped).launch #[] ⟨16, 8⟩).Grouped ⟨16, 8⟩ := ⟨rfl, hg⟩
  obtain ⟨htotal, hvisit, -⟩ := sums_tell_which_items_ran (wanting "16" swapped) ⟨16, 8⟩ hrange
  have hu8 := (hvisit .u8 "u8" #[] (List.range 14) (by decide) rfl hd hp
    (Scalar.holds_of_not_float rfl _) fun h ↦ absurd h Bool.false_ne_true).1
  have hbool := (hvisit .bool "bool" #[] (List.range 14) (by decide) rfl hd hp
    (Scalar.holds_of_not_float rfl _) fun h ↦ absurd h Bool.false_ne_true).1
  have hfails : disagreement (t := .scalar .u8) "u8" (sumOver (.scalar .u8) (List.range 14))
      (sumOver (.scalar .u8) (List.range 16)) =
        [.fail "u8 sum: expected 43, got 42" (some .caller)] := by decide +kernel
  have hagrees : disagreement (t := .scalar .bool) "bool" (sumOver (.scalar .bool) (List.range 14))
      (sumOver (.scalar .bool) (List.range 16)) = [] := by decide +kernel
  dsimp only at hu8 hbool
  rw [hfails] at hu8
  rw [hagrees] at hbool
  have hcovered : NdRange.Covered ⟨16, 8⟩ reversed := ⟨by decide, by decide⟩
  have hrange' : rangeFor (wanting "16" reversed) = .ok ⟨16, 8⟩ := by cbv
  obtain ⟨-, -, hpasses, -⟩ := sums_tell_which_items_ran (wanting "16" reversed) ⟨16, 8⟩ hrange'
  refine ⟨hpasses (by decide) (fun _ ↦ ⟨rfl, hcovered⟩) #[], hrange, ?_, hu8, hbool⟩
  exact htotal .u8 swapped (List.range 14) hg hp (Scalar.holds_of_not_float rfl _)

def vast : NdRange := ⟨9223372036854775808, 8⟩

def crowd (count group : Nat) : List WorkItem :=
  List.replicate count ⟨6, 6, 0⟩ ++ ⟨3, 3, 0⟩ :: List.replicate 3 ⟨1, 1, group⟩

theorem foldl_sixes (count : Nat) (h : count * 6 < Scalar.tallyLimit) :
    (List.replicate count ⟨6, 6, 0⟩).foldl (accumulate (t := .scalar .f32))
      (#[0, 0].map Scalar.f32.tally) = #[count * 6, 0].map Scalar.f32.tally := by
  induction count with
  | zero => rfl
  | succ count ih =>
    have hg : (⟨6, 6, 0⟩ : WorkItem).groupId < #[count * 6, 0].size := Nat.succ_pos 1
    have hlimit : Scalar.f32.Holds (#[count * 6, 0].toList.sum + Scalar.f32.weight 6) := by
      intro _
      have hw : Scalar.f32.weight 6 = 6 := rfl
      have hs : #[count * 6, 0].toList.sum = count * 6 := by simp
      omega
    rw [List.replicate_succ', List.foldl_append, ih (by omega), Nat.succ_mul]
    exact accumulate_tally hg hlimit

theorem totalOfItems_crowd {count : Nat} (h : count * 6 < Scalar.tallyLimit) (group : Nat) :
    totalOfItems (.scalar .f32) 2 (crowd count group) =
      total (.scalar .f32) ((⟨3, 3, 0⟩ :: List.replicate 3 ⟨1, 1, group⟩).foldl
        (accumulate (t := .scalar .f32)) (#[count * 6, 0].map Scalar.f32.tally)).toList := by
  have hzero : Array.replicate 2 (DataType.scalar .f32).zero = #[0, 0].map Scalar.f32.tally := by
    rw [DataType.zero, ← Scalar.tally_zero, ← Array.map_replicate]
    rfl
  rw [totalOfItems, hzero, crowd, List.foldl_append, foldl_sixes count h]

theorem crowd_lt {count group : Nat} (hgroup : group < 2) :
    ∀ item ∈ crowd count group, item.groupId < 2 := by
  intro item hi
  simp only [crowd, List.mem_append, List.mem_cons, List.mem_replicate] at hi
  obtain ⟨-, rfl⟩ | rfl | ⟨-, rfl⟩ := hi
  · exact Nat.succ_pos 1
  · exact Nat.succ_pos 1
  · exact hgroup

def sixes : Nat := 2796202

theorem rangeFor_wanting (items : List WorkItem) : rangeFor (wanting "16" items) = .ok ⟨16, 8⟩ := by
  cbv

/-- A range may have too many work-groups to be summed at all. Where it can be, the sum of floats
may depend on the work-group that an item is counted to, once it is no longer without loss. -/
theorem sums_of_floats_differ :
    (rangeFor (wanting "9223372036854775808" []) = .ok vast ∧
      ((running []).launch #[] vast).Grouped vast ∧
      sumOver (.scalar .bool) [] ≠ sumOver (.scalar .bool) (List.range vast.globalSize) ∧
      Course (running []) #[] (checkType (wanting "9223372036854775808" []) vast
        ⟨.scalar .bool, "bool"⟩) [] (.error (.panicked (.text "capacity overflow")))) ∧
    (∀ group < 2, rangeFor (wanting "16" (crowd sixes group)) = .ok ⟨16, 8⟩ ∧
      ((running (crowd sixes group)).launch #[] ⟨16, 8⟩).Grouped ⟨16, 8⟩) ∧
    (crowd sixes 0).map WorkItem.globalId = (crowd sixes 1).map WorkItem.globalId ∧
    totalOfItems (.scalar .f32) 2 (crowd sixes 0) ≠
      totalOfItems (.scalar .f32) 2 (crowd sixes 1) := by
  have hsixes : sixes * 6 < Scalar.tallyLimit := by
    rw [sixes, Scalar.tallyLimit]
    omega
  refine ⟨⟨by cbv, ⟨rfl, by simp [running]⟩, ?_, .stop _ _⟩, ?_, ?_, ?_⟩
  · have hone : Scalar.bool.weight 1 ≤ Scalar.bool.load (List.range vast.globalSize) :=
      List.le_sum_of_mem (List.mem_map_of_mem (List.mem_range.2 (by decide)))
    have hbool : ∀ n, Scalar.bool.Holds n := Scalar.holds_of_not_float rfl
    rw [sumOver_eq (hbool _), sumOver_eq (hbool _)]
    generalize Scalar.bool.load (List.range vast.globalSize) = n at hone
    have hpos : Scalar.bool.tally n = true := decide_eq_true hone
    rw [hpos]
    exact Bool.false_ne_true
  · intro group hgroup
    exact ⟨rangeFor_wanting _, rfl, crowd_lt hgroup⟩
  · simp [crowd]
  · rw [totalOfItems_crowd hsixes, totalOfItems_crowd hsixes]
    decide +kernel

end Suite.Reduction

end Conformance
