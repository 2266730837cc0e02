import Conformance.Proofs.HostSuites
import Conformance.Proofs.LaunchRanges

namespace Conformance

open Coverage (DataType TypePack Visit)
open Script (Course)

def Deed.isLaunch : Deed → Bool
  | launch _ => true
  | record _ | notify _ | wait _ => false

/-- The launch over the range is completed. It ran any items of the range, in any order and any
number of times. -/
structure Launch.Completed (l : Launch) (r : NdRange) : Prop where
  ending : l.ending = .completed
  lt : ∀ item ∈ l.items, item.globalId < r.globalSize

namespace Suite.Copy

variable {count : Nat} {items : List WorkItem}

def complaint (mistakes : Nat) (message : String) : List Event :=
  if mistakes = 0 then [] else [.fail message (some .caller)]

def findings (label : String) (count : Nat) (items : List WorkItem) : List Event :=
  complaint (lost count items) (label ++ ": " ++ shown (lost count items) ++ " of " ++
    shown count ++ " slots hold the wrong value") ++
  complaint (repeated items) (label ++ ": " ++ shown (repeated items) ++
    " work-items ran more than once")

theorem complaint_eq_nil_iff {mistakes : Nat} {message : String} :
    complaint mistakes message = [] ↔ mistakes = 0 := by
  simp [complaint]

theorem findings_eq_nil_iff (label : String) (hi : ∀ item ∈ items, item.globalId < count) :
    findings label count items = [] ↔
      ∀ i < count, (items.map WorkItem.globalId).count i = 1 := by
  rw [findings, List.append_eq_nil_iff, complaint_eq_nil_iff, complaint_eq_nil_iff,
    lost_eq_zero_iff, repeated_eq_zero_iff]
  constructor
  · intro ⟨hall, hnodup⟩ i hlt
    exact List.count_eq_one_of_mem hnodup (hall i hlt)
  · intro hone
    constructor
    · intro i hlt
      apply List.count_pos_iff.1
      rw [hone i hlt]
      exact Nat.one_pos
    · rw [List.nodup_iff_count_le_one]
      intro i
      by_cases hm : i ∈ items.map WorkItem.globalId
      · obtain ⟨item, hitem, rfl⟩ := List.mem_map.1 hm
        exact (hone _ (hi item hitem)).le
      · rw [List.count_eq_zero_of_not_mem hm]
        exact Nat.zero_le 1

theorem check_course (d : Device) (earlier : Array NdRange) (mistakes : Nat) (message : String) :
    Course d earlier (Script.check (mistakes == 0) message)
      ((complaint mistakes message).map .record) (.ok (mistakes == 0)) := by
  have hc := Script.check_course d earlier (mistakes == 0) message
  unfold complaint
  by_cases hz : mistakes = 0
  · simpa [hz] using hc
  · simpa [hz] using hc

/-- What happens in these visits on a device that completes its launches. -/
def tale (d : Device) (r : NdRange) : Array NdRange → List Visit → List Deed
  | _, [] => []
  | earlier, v :: visits =>
    match lacking? d v.type.requires with
    | some c => .record (.note (notChecked v.label c)) :: tale d r earlier visits
    | none =>
      .launch r :: ((findings v.label r.globalSize (d.launch earlier r).items).map .record ++
        tale d r (earlier.push r) visits)

theorem reach_lt_of_mem : ∀ v ∈ TypePack.scalars.visitsWithVectors, v.type.reach < 2 ^ 63 := by
  decide

section

variable {env : TestEnv} {r : NdRange}

theorem checkType_overflows {v : Visit} (hr : ¬ HasRoom r v.type)
    (hl : lacking? env.device v.type.requires = none) (earlier : Array NdRange) (checked : Nat) :
    Course env.device earlier (checkType env r checked v) []
      (.error (.panicked (.text "capacity overflow"))) := by
  unfold checkType
  simp only [hl, reserve, if_pos (Nat.not_lt.1 hr)]
  exact .stop _ _

theorem checkType_course {v : Visit} (hr : HasRoom r v.type) (hv : v.type.reach < 2 ^ 63)
    (hl : lacking? env.device v.type.requires = none) {earlier : Array NdRange}
    (hd : (env.device.launch earlier r).Completed r) (checked : Nat) :
    Course env.device earlier (checkType env r checked v)
      (.launch r :: (findings v.label r.globalSize
        (env.device.launch earlier r).items).map .record) (.ok (checked + 1)) := by
  have hw : r.globalSize + v.type.reach ≤ wordLimit := by
    have hlt := lt_of_room (le_refl 4) hr
    unfold wordLimit
    omega
  have hfault : ∀ item ∈ (env.device.launch earlier r).items,
      fault v.type r.globalSize item = none := by
    intro item hi
    have hlt := hd.lt item hi
    exact fault_eq_none hlt (by omega)
  have hitems := TestEnv.launchItems_course hd.ending hfault
  have hs : (List.range r.globalSize).mapM v.type.sample =
      .ok ((List.range r.globalSize).map v.type.value) := by
    apply mapM_eq_ok
    intro i hlt
    rw [List.mem_range] at hlt
    exact v.type.sample_eq_value (by omega)
  have ht := Slots.ofItems_tells hd.lt hw
  unfold checkType
  simp only [hl, reserve_of_lt hr]
  apply hitems.append
  simp only [hs, Script.ofWord]
  rw [findings, List.map_append, ← List.append_nil (List.map _ (complaint (repeated _) _)),
    ← ht.wrong_eq, ← ht.repeats_eq]
  apply (check_course _ _ _ _).append
  rw [Script.seen_events]
  apply (check_course _ _ _ _).append
  exact .done _ _

/-- Memory has room for the slots of every type that is visited and that the device takes. -/
def RoomForAll (d : Device) (r : NdRange) (visits : List Visit) : Prop :=
  ∀ v ∈ visits, lacking? d v.type.requires = none → HasRoom r v.type

variable (hd : ∀ earlier, (env.device.launch earlier r).Completed r)
include hd

theorem visits_course {visits : List Visit} (hr : RoomForAll env.device r visits)
    (hv : ∀ v ∈ visits, v.type.reach < 2 ^ 63) (earlier : Array NdRange) (checked : Nat) :
    Course env.device earlier (visits.foldlM (checkType env r) checked)
      (tale env.device r earlier visits)
      (.ok (checked + (tale env.device r earlier visits).countP Deed.isLaunch)) := by
  -- The number of checked types and the number of launches still to come add up to the same.
  induction visits generalizing earlier checked with
  | nil => exact .done _ _
  | cons v visits ih =>
    obtain ⟨hroom, hr⟩ := List.forall_mem_cons.1 hr
    obtain ⟨hreach, hv⟩ := List.forall_mem_cons.1 hv
    rw [List.foldlM_cons]
    cases hl : lacking? env.device v.type.requires with
    | some c =>
      simp only [tale, hl, checkType]
      rw [List.countP_cons_of_neg Bool.false_ne_true]
      exact .record (ih hr hv earlier checked)
    | none =>
      have hvisit := checkType_course (hroom hl) hreach hl (hd earlier) checked
      have hrest := ih hr hv (earlier.push r) (checked + 1)
      have hcount : ∀ events : List Event, (events.map Deed.record).countP Deed.isLaunch = 0 := by
        intro events
        rw [List.countP_map]
        exact List.countP_eq_zero.2 fun _ _ ↦ Bool.false_ne_true
      simp only [tale, hl]
      rw [List.countP_cons_of_pos rfl, List.countP_append, hcount, Nat.zero_add,
        Nat.add_comm _ 1, ← Nat.add_assoc]
      apply hvisit.append
      rw [Script.seen, Script.seen_events]
      exact hrest

omit hd in
theorem exists_first_without_room {visits : List Visit} (h : ¬ RoomForAll env.device r visits) :
    ∃ before v after, visits = before ++ v :: after ∧ RoomForAll env.device r before ∧
      lacking? env.device v.type.requires = none ∧ ¬ HasRoom r v.type := by
  induction visits with
  | nil => exact absurd (fun v hv ↦ nomatch hv) h
  | cons v visits ih =>
    by_cases hv : lacking? env.device v.type.requires = none → HasRoom r v.type
    · obtain ⟨before, v', after, rfl, hb, hl, hr⟩ :=
        ih fun hvs ↦ h (List.forall_mem_cons.2 ⟨hv, hvs⟩)
      exact ⟨v :: before, v', after, rfl, List.forall_mem_cons.2 ⟨hv, hb⟩, hl, hr⟩
    · obtain ⟨hl, hr⟩ := Classical.not_imp.1 hv
      exact ⟨[], v, visits, rfl, fun v hv ↦ (nomatch hv), hl, hr⟩

theorem visits_overflow (after : List Visit) {before : List Visit} {v : Visit}
    (hr : RoomForAll env.device r before) (hb : ∀ v ∈ before, v.type.reach < 2 ^ 63)
    (hl : lacking? env.device v.type.requires = none) (hv : ¬ HasRoom r v.type)
    (earlier : Array NdRange) (checked : Nat) :
    Course env.device earlier ((before ++ v :: after).foldlM (checkType env r) checked)
      (tale env.device r earlier before) (.error (.panicked (.text "capacity overflow"))) := by
  rw [List.foldlM_append, ← List.append_nil (tale _ _ _ _)]
  apply (visits_course hd hr hb earlier checked).append
  rw [List.foldlM_cons]
  exact (checkType_overflows hv hl _ _).bind_of_error _

theorem body_course (hr : RoomForAll env.device r TypePack.scalars.visitsWithVectors)
    (hrange : rangeFor env = .ok r) (earlier : Array NdRange) :
    ∃ notices : List Notice, Course env.device earlier (body env)
      (notices.map .notify ++ (tale env.device r earlier TypePack.scalars.visitsWithVectors ++
        [.record (.note ("checked " ++ shown ((tale env.device r earlier
          TypePack.scalars.visitsWithVectors).countP Deed.isLaunch) ++ " types"))])) (.ok ()) := by
  obtain ⟨notices, hn⟩ := launchRange_course hrange env.device earlier
  refine ⟨notices, ?_⟩
  apply hn.append
  rw [Script.seen_notices]
  have hvisits := visits_course hd hr reach_lt_of_mem earlier 0
  rw [Nat.zero_add] at hvisits
  apply hvisits.append
  exact .record (.done _ _)

end

/-- The test finds every lost item and every item that came again, and counts its launches. A type
that memory has no room for is another matter: its visit ends the test before it launches anything.
-/
theorem finds_lost_and_repeated_items (env : TestEnv) (r : NdRange) :
    (∀ v ∈ TypePack.scalars.visitsWithVectors, v.type.reach < 2 ^ 63) ∧
    (∀ v : Visit, ¬ HasRoom r v.type → lacking? env.device v.type.requires = none →
      ∀ earlier checked, Course env.device earlier (checkType env r checked v) []
        (.error (.panicked (.text "capacity overflow")))) ∧
    (∀ v : Visit, HasRoom r v.type → v.type.reach < 2 ^ 63 →
      lacking? env.device v.type.requires = none →
      ∀ earlier checked, (env.device.launch earlier r).Completed r →
        Course env.device earlier (checkType env r checked v)
          (.launch r :: (findings v.label r.globalSize
            (env.device.launch earlier r).items).map .record) (.ok (checked + 1)) ∧
        (findings v.label r.globalSize (env.device.launch earlier r).items = [] ↔
          ∀ i < r.globalSize,
            ((env.device.launch earlier r).items.map WorkItem.globalId).count i = 1)) ∧
    (RoomForAll env.device r TypePack.scalars.visitsWithVectors →
      (∀ earlier, (env.device.launch earlier r).Completed r) → rangeFor env = .ok r →
      ∀ earlier, ∃ notices : List Notice, Course env.device earlier (body env)
        (notices.map .notify ++ (tale env.device r earlier TypePack.scalars.visitsWithVectors ++
          [.record (.note ("checked " ++ shown ((tale env.device r earlier
            TypePack.scalars.visitsWithVectors).countP Deed.isLaunch) ++ " types"))]))
        (.ok ())) := by
  refine ⟨reach_lt_of_mem, ?_, ?_, ?_⟩
  · intro v hr hl earlier checked
    exact checkType_overflows hr hl earlier checked
  · intro v hr hv hl earlier checked hd
    exact ⟨checkType_course hr hv hl hd checked, findings_eq_nil_iff v.label hd.lt⟩
  · intro hr hd hrange earlier
    exact body_course hd hr hrange earlier

def completing (items : List WorkItem) : Device where
  name := "completing"
  available := true
  has _ := false
  maxWorkGroupSize := 8
  subGroupSize := none
  launch _ _ := ⟨items, .completed⟩

def asking (count : String) (items : List WorkItem) : TestEnv :=
  ⟨completing items, [("global_size", count)]⟩

def uneven : List WorkItem := [0, 0, 6, 5, 4, 3, 2, 1].map fun i ↦ ⟨i, i, 0⟩

theorem finds_uneven_items :
    rangeFor (asking "8" uneven) = .ok ⟨8, 8⟩ ∧
    Course (completing uneven) #[] (checkType (asking "8" uneven) ⟨8, 8⟩ 0
      ⟨.vector (.scalar .u32) 2, "vec<u32, 2>"⟩)
      [.launch ⟨8, 8⟩,
        .record (.fail "vec<u32, 2>: 1 of 8 slots hold the wrong value" (some .caller)),
        .record (.fail "vec<u32, 2>: 1 work-items ran more than once" (some .caller))] (.ok 1) ∧
    (tale (completing uneven) ⟨8, 8⟩ #[] TypePack.scalars.visitsWithVectors).countP
      Deed.isLaunch = 56 ∧
    ∃ (notices : List Notice) (deeds : List Deed), Course (completing uneven) #[]
      (body (asking "8" uneven))
      (notices.map .notify ++ (deeds ++ [.record (.note "checked 56 types")])) (.ok ()) := by
  have hr : ∀ v ∈ TypePack.scalars.visitsWithVectors, HasRoom ⟨8, 8⟩ v.type := by decide
  have hlt : ∀ item ∈ uneven, item.globalId < 8 := by decide
  have hc : ∀ earlier, ((completing uneven).launch earlier ⟨8, 8⟩).Completed ⟨8, 8⟩ :=
    fun _ ↦ ⟨rfl, hlt⟩
  have hrange : rangeFor (asking "8" uneven) = .ok ⟨8, 8⟩ := by cbv
  have hcount : (tale (completing uneven) ⟨8, 8⟩ #[] TypePack.scalars.visitsWithVectors).countP
      Deed.isLaunch = 56 := by decide +kernel
  have hfindings : findings "vec<u32, 2>" 8 uneven =
      [.fail "vec<u32, 2>: 1 of 8 slots hold the wrong value" (some .caller),
        .fail "vec<u32, 2>: 1 work-items ran more than once" (some .caller)] := by decide +kernel
  have hnote : "checked " ++ shown (56 : Nat) ++ " types" = "checked 56 types" := by decide +kernel
  obtain ⟨-, -, hvisit, hbody⟩ := finds_lost_and_repeated_items (asking "8" uneven) ⟨8, 8⟩
  refine ⟨hrange, ?_, hcount, ?_⟩
  · have hv := (hvisit ⟨.vector (.scalar .u32) 2, "vec<u32, 2>"⟩ (by decide) (by decide) rfl #[] 0
      (hc #[])).1
    have hitems : ((asking "8" uneven).device.launch #[] ⟨8, 8⟩).items = uneven := rfl
    rwa [hitems, hfindings] at hv
  · obtain ⟨notices, hn⟩ := hbody (fun v hv _ ↦ hr v hv) hc hrange #[]
    have hd : (asking "8" uneven).device = completing uneven := rfl
    rw [hd, hcount, hnote] at hn
    exact ⟨notices, _, hn⟩

/-- A range that memory has no slots for. The test does not come to launch it. -/
def vast : NdRange := ⟨1152921504606846976, 8⟩

theorem finds_nothing_without_memory :
    rangeFor (asking "1152921504606846976" []) = .ok vast ∧
    (∀ earlier, ((completing []).launch earlier vast).Completed vast) ∧
    findings "bool" vast.globalSize ((completing []).launch #[] vast).items ≠ [] ∧
    Course (completing []) #[] (checkType (asking "1152921504606846976" []) vast 0
      ⟨.scalar .bool, "bool"⟩) [] (.error (.panicked (.text "capacity overflow"))) := by
  have hc : ∀ earlier, ((completing []).launch earlier vast).Completed vast :=
    fun _ ↦ ⟨rfl, fun _ h ↦ nomatch h⟩
  refine ⟨by cbv, hc, ?_, .stop _ _⟩
  rw [Ne, findings_eq_nil_iff "bool" (hc #[]).lt]
  intro h
  exact absurd (h 0 (by decide)) (by decide)

end Suite.Copy

end Conformance
