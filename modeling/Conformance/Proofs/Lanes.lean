import Conformance.Proofs.Samples

namespace Conformance

theorem addWord_eq_ok_iff {a b n : Nat} : addWord a b = .ok n ↔ a + b < wordLimit ∧ n = a + b := by
  unfold addWord
  split <;> simp_all [eq_comm]

namespace Coverage

namespace Scalar

variable {s : Scalar}

theorem combine_assoc (h : s.isFloat = false) (a b c : s.Value) :
    s.combine (s.combine a b) c = s.combine a (s.combine b c) := by
  cases s with
  | f32 | f64 => cases h
  | _ =>
    simp only [combine]
    ac_rfl

theorem combine_comm (h : s.isFloat = false) (a b : s.Value) :
    s.combine a b = s.combine b a := by
  cases s with
  | f32 | f64 => cases h
  | _ =>
    simp only [combine]
    ac_rfl

theorem zero_combine (h : s.isFloat = false) (a : s.Value) : s.combine s.zero a = a := by
  cases s with
  | f32 | f64 => cases h
  | _ => simp [combine, zero]

end Scalar

namespace DataType

variable {t : DataType} {lanes : List Nat}

def base : DataType → Scalar
  | scalar s => s
  | vector t _ => t.base

def widths : DataType → List Nat
  | scalar _ => []
  | vector t width => width :: t.widths

theorem combine_assoc (h : t.base.isFloat = false) (a b c : t.Value) :
    t.combine (t.combine a b) c = t.combine a (t.combine b c) := by
  induction t with
  | scalar s => exact Scalar.combine_assoc h a b c
  | vector t width ih =>
    refine Vector.ext fun i hi ↦ ?_
    simp only [combine, Vector.getElem_zipWith]
    exact ih h _ _ _

theorem combine_comm (h : t.base.isFloat = false) (a b : t.Value) :
    t.combine a b = t.combine b a := by
  induction t with
  | scalar s => exact Scalar.combine_comm h a b
  | vector t width ih =>
    refine Vector.ext fun i hi ↦ ?_
    simp only [combine, Vector.getElem_zipWith]
    exact ih h _ _

theorem zero_combine (h : t.base.isFloat = false) (a : t.Value) : t.combine t.zero a = a := by
  induction t with
  | scalar s => exact Scalar.zero_combine h a
  | vector t width ih =>
    refine Vector.ext fun i hi ↦ ?_
    simp only [combine, zero, Vector.getElem_zipWith, Vector.getElem_replicate]
    exact ih h _

/-- What stands in a lane of a lane of a value, and so on down to a scalar. -/
def element? : (t : DataType) → t.Value → List Nat → Option t.base.Value
  | scalar _, a, [] => some a
  | scalar _, _, _ :: _ => none
  | vector _ _, _, [] => none
  | vector t _, a, lane :: lanes => a[lane]?.bind fun x ↦ t.element? x lanes

/-- The lanes lead from the outermost vector into those inside it, though not always to the end. -/
def Reaches (t : DataType) (lanes : List Nat) : Prop :=
  ∃ ws, ws <+: t.widths ∧ List.Forall₂ (· < ·) lanes ws

theorem reaches_scalar {s : Scalar} : (scalar s).Reaches lanes ↔ lanes = [] := by
  constructor
  · rintro ⟨ws, hw, h⟩
    rw [List.prefix_nil.1 hw] at h
    exact List.forall₂_nil_right_iff.1 h
  · rintro rfl
    exact ⟨[], List.nil_prefix, .nil⟩

theorem reaches_nil (t : DataType) : t.Reaches [] := ⟨[], List.nil_prefix, .nil⟩

theorem reaches_cons {width lane : Nat} :
    (vector t width).Reaches (lane :: lanes) ↔ lane < width ∧ t.Reaches lanes := by
  constructor
  · rintro ⟨ws, hw, h⟩
    obtain ⟨w, ws, hlane, hlanes, rfl⟩ := List.forall₂_cons_left_iff.1 h
    change w :: ws <+: width :: t.widths at hw
    obtain ⟨rfl, hws⟩ := List.cons_prefix_cons.1 hw
    exact ⟨hlane, ws, hws, hlanes⟩
  · rintro ⟨hlane, ws, hw, h⟩
    exact ⟨width :: ws, List.cons_prefix_cons.2 ⟨rfl, hw⟩, .cons hlane h⟩

theorem Reaches.sum_le (h : t.Reaches lanes) : lanes.sum ≤ t.reach := by
  induction t generalizing lanes with
  | scalar s =>
    rw [reaches_scalar.1 h]
    exact Nat.zero_le _
  | vector t width ih =>
    cases lanes with
    | nil => exact Nat.zero_le _
    | cons lane lanes =>
      obtain ⟨hlane, hr⟩ := reaches_cons.1 h
      have hle := ih hr
      rw [List.sum_cons, reach]
      omega

theorem sample_eq_ok_iff {i : Nat} (hi : i < wordLimit) {v : t.Value} :
    t.sample i = .ok v ↔ v = t.value i ∧ ∀ lanes, t.Reaches lanes → i + lanes.sum < wordLimit := by
  induction t generalizing i with
  | scalar s =>
    have hr : ∀ lanes, (scalar s).Reaches lanes → i + lanes.sum < wordLimit := by
      intro lanes hl
      rw [reaches_scalar.1 hl]
      exact hi
    exact ⟨fun h ↦ ⟨(Except.ok.inj h).symm, hr⟩, fun h ↦ congrArg _ h.1.symm⟩
  | vector t width ih =>
    constructor
    · intro h
      have hlane : ∀ lane < width, i + lane < wordLimit ∧
          t.sample (i + lane) = .ok (t.value (i + lane)) ∧
          ∀ lanes, t.Reaches lanes → i + lane + lanes.sum < wordLimit := by
        intro lane hlane
        obtain ⟨x, hx⟩ := exists_of_vector_mapM_eq_ok h lane (Vector.mem_range.2 hlane)
        obtain ⟨n, hn, hx⟩ := bind_eq_ok_iff.1 hx
        obtain ⟨hlt, rfl⟩ := addWord_eq_ok_iff.1 hn
        obtain ⟨rfl, hr⟩ := (ih hlt).1 hx
        exact ⟨hlt, hx, hr⟩
      have hv : (vector t width).sample i = .ok ((vector t width).value i) := by
        refine vector_mapM_eq_ok fun lane hm ↦ ?_
        obtain ⟨hlt, hx, -⟩ := hlane lane (Vector.mem_range.1 hm)
        exact bind_eq_ok_iff.2 ⟨i + lane, addWord_eq_ok_iff.2 ⟨hlt, rfl⟩, hx⟩
      refine ⟨Except.ok.inj (h.symm.trans hv), fun lanes hr ↦ ?_⟩
      cases lanes with
      | nil => exact hi
      | cons lane lanes =>
        obtain ⟨hl, hr⟩ := reaches_cons.1 hr
        rw [List.sum_cons, ← Nat.add_assoc]
        exact (hlane lane hl).2.2 lanes hr
    · rintro ⟨rfl, h⟩
      refine vector_mapM_eq_ok fun lane hm ↦ ?_
      have hlane := Vector.mem_range.1 hm
      have hlt : i + lane < wordLimit := h [lane] (reaches_cons.2 ⟨hlane, t.reaches_nil⟩)
      refine bind_eq_ok_iff.2 ⟨i + lane, addWord_eq_ok_iff.2 ⟨hlt, rfl⟩, ?_⟩
      refine (ih hlt).2 ⟨rfl, fun lanes hr ↦ ?_⟩
      have hsum := h (lane :: lanes) (reaches_cons.2 ⟨hlane, hr⟩)
      rwa [List.sum_cons, ← Nat.add_assoc] at hsum

theorem element?_value (h : List.Forall₂ (· < ·) lanes t.widths) (i : Nat) :
    t.element? (t.value i) lanes = some (t.base.sample (i + lanes.sum)) := by
  induction t generalizing i lanes with
  | scalar s =>
    rw [List.forall₂_nil_right_iff.1 h]
    rfl
  | vector t width ih =>
    obtain ⟨lane, lanes, hlane, hlanes, rfl⟩ := List.forall₂_cons_right_iff.1 h
    have hx : (((vector t width).value i)[lane]?) = some (t.value (i + lane)) := by
      simp [value, hlane]
    rw [element?, hx, List.sum_cons, ← Nat.add_assoc]
    exact ih hlanes (i + lane)

/-- Values that are no floats, and vectors of such values, are combined in any order and grouping,
and the zero makes no difference. For every type, the sample of an index is there just if the index
can be moved on by all lanes that lead into it, and in each place it is the sample of the scalar for
the index moved on by the lanes that lead there. -/
theorem lanes_tell_scalars (t : DataType) :
    (t.base.isFloat = false →
      (∀ a b c, t.combine (t.combine a b) c = t.combine a (t.combine b c)) ∧
      (∀ a b, t.combine a b = t.combine b a) ∧
      ∀ a, t.combine t.zero a = a ∧ t.combine a t.zero = a) ∧
    ∀ i < wordLimit,
      ((∃ v, t.sample i = .ok v) ↔ ∀ lanes, t.Reaches lanes → i + lanes.sum < wordLimit) ∧
      ∀ v, t.sample i = .ok v → ∀ lanes, List.Forall₂ (· < ·) lanes t.widths →
        t.element? v lanes = some (t.base.sample (i + lanes.sum)) := by
  refine ⟨fun h ↦ ⟨combine_assoc h, combine_comm h, fun a ↦ ⟨zero_combine h a, ?_⟩⟩,
    fun i hi ↦ ⟨⟨?_, fun h ↦ ⟨_, (sample_eq_ok_iff hi).2 ⟨rfl, h⟩⟩⟩, ?_⟩⟩
  · rw [combine_comm h, zero_combine h]
  · rintro ⟨v, hv⟩
    exact ((sample_eq_ok_iff hi).1 hv).2
  · intro v hv lanes hl
    rw [((sample_eq_ok_iff hi).1 hv).1]
    exact element?_value hl i

theorem lanes_tell_scalars_utmost :
    ∃ v, (vector (vector (scalar .i8) 2) 3).sample 18446744073709551612 = .ok v ∧
      element? _ v [2, 1] = some (1 : Int8) ∧
      ∀ v, (vector (vector (scalar .i8) 2) 3).sample 18446744073709551613 ≠ .ok v := by
  obtain ⟨hfits, hplaces⟩ := (lanes_tell_scalars (vector (vector (scalar .i8) 2) 3)).2
    18446744073709551612 (by decide)
  obtain ⟨v, hv⟩ := hfits.2 fun lanes h ↦ by
    have hle : lanes.sum ≤ 3 := h.sum_le
    rw [wordLimit]
    omega
  refine ⟨v, hv, ?_, fun v' hv' ↦ ?_⟩
  · rw [hplaces v hv [2, 1] (by decide)]
    rfl
  · have hlanes := ((lanes_tell_scalars (vector (vector (scalar .i8) 2) 3)).2
      18446744073709551613 (by decide)).1.1 ⟨v', hv'⟩
    have hlast := hlanes [2, 1]
      (reaches_cons.2 ⟨by decide, reaches_cons.2 ⟨by decide, reaches_nil _⟩⟩)
    exact absurd hlast (by decide)

end DataType

end Coverage

end Conformance
