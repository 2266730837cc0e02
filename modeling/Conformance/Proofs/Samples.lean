import Conformance.Coverage.TypePack
import Conformance.Proofs.Fallible
import Conformance.Proofs.WholeFloats

namespace Conformance

namespace Coverage

open WholeFloats

namespace Scalar

def weight : Scalar → Nat → Nat
  | bool, i => i % 2
  | _, i => i % 7

def tally : (s : Scalar) → Nat → s.Value
  | bool, n => decide (0 < n)
  | i8, n => Int8.ofNat n
  | u8, n => UInt8.ofNat n
  | i16, n => Int16.ofNat n
  | u16, n => UInt16.ofNat n
  | i32, n => Int32.ofNat n
  | u32, n => UInt32.ofNat n
  | i64, n => Int64.ofNat n
  | u64, n => UInt64.ofNat n
  | f32, n => float32 n
  | f64, n => float64 n

def isFloat : Scalar → Bool
  | f32 | f64 => true
  | _ => false

def tallyLimit : Nat := 2 ^ 24

/-- Sums up to this number come out right. Integers go round and truth values do not count, so that
only floats have a limit. -/
def Holds (s : Scalar) (n : Nat) : Prop := s.isFloat = true → n < tallyLimit

theorem Holds.mono {s : Scalar} {m n : Nat} (h : s.Holds n) (hle : m ≤ n) : s.Holds m :=
  fun hs ↦ Nat.lt_of_le_of_lt hle (h hs)

theorem holds_of_not_float {s : Scalar} (h : s.isFloat = false) (n : Nat) : s.Holds n := by
  intro hs
  rw [h] at hs
  cases hs

theorem weight_lt (s : Scalar) (i : Nat) : s.weight i < 7 := by
  cases s <;> simp only [weight] <;> omega

theorem tally_zero (s : Scalar) : s.tally 0 = s.zero := by
  cases s <;> rfl

theorem sample_eq_tally (s : Scalar) (i : Nat) : s.sample i = s.tally (s.weight i) := by
  cases s with
  | bool =>
    have h : i % 2 = 0 ∨ i % 2 = 1 := by omega
    obtain h | h := h <;> simp [sample, tally, weight, h]
  | f32 => exact float32_ofNat _ (Nat.mod_lt i (by decide))
  | f64 => exact float64_ofNat _ (Nat.mod_lt i (by decide))
  | _ => rfl

theorem combine_tally (s : Scalar) {a b : Nat} (h : s.Holds (a + b)) :
    s.combine (s.tally a) (s.tally b) = s.tally (a + b) := by
  unfold Holds tallyLimit at h
  cases s with
  | bool =>
    rw [Bool.eq_iff_iff]
    simp only [combine, tally, Bool.or_eq_true, decide_eq_true_eq]
    omega
  | f32 => exact float32_add (h rfl)
  | f64 => exact float64_add ((h rfl).trans (by decide))
  | i8 => exact congrArg Int8.ofUInt8 (UInt8.ofNat_add a b).symm
  | i16 => exact congrArg Int16.ofUInt16 (UInt16.ofNat_add a b).symm
  | i32 => exact congrArg Int32.ofUInt32 (UInt32.ofNat_add a b).symm
  | i64 => exact congrArg Int64.ofUInt64 (UInt64.ofNat_add a b).symm
  | u8 => exact (UInt8.ofNat_add a b).symm
  | u16 => exact (UInt16.ofNat_add a b).symm
  | u32 => exact (UInt32.ofNat_add a b).symm
  | u64 => exact (UInt64.ofNat_add a b).symm

theorem equal_tally_iff (s : Scalar) {a b : Nat} (ha : s.Holds a) (hb : s.Holds b) :
    s.equal (s.tally a) (s.tally b) = true ↔ s.tally a = s.tally b := by
  unfold Holds tallyLimit at ha hb
  cases s with
  | f32 => exact float32_beq_iff (ha rfl) (hb rfl)
  | f64 => exact float64_beq_iff ((ha rfl).trans (by decide)) ((hb rfl).trans (by decide))
  | _ => exact beq_iff_eq

def load (s : Scalar) (indices : List Nat) : Nat := (indices.map s.weight).sum

theorem load_cons (s : Scalar) (i : Nat) (indices : List Nat) :
    s.load (i :: indices) = s.weight i + s.load indices := by
  rw [load, List.map_cons, List.sum_cons, load]

theorem load_perm (s : Scalar) {indices indices' : List Nat} (h : indices.Perm indices') :
    s.load indices = s.load indices' :=
  (h.map s.weight).sum_eq

theorem holds_load_range (s : Scalar) {n : Nat} (hn : n ≤ 2 ^ 21) :
    s.Holds (s.load (List.range n)) := by
  have hle := List.sum_le_card_nsmul ((List.range n).map s.weight) 6 fun w hw ↦ by
    obtain ⟨i, -, rfl⟩ := List.mem_map.1 hw
    exact Nat.le_of_lt_succ (s.weight_lt i)
  rw [List.length_map, List.length_range, smul_eq_mul] at hle
  intro _
  rw [load, tallyLimit]
  omega

theorem foldl_combine_tally (s : Scalar) (ns : List Nat) {a : Nat} (h : s.Holds (a + ns.sum)) :
    (ns.map s.tally).foldl s.combine (s.tally a) = s.tally (a + ns.sum) := by
  induction ns generalizing a with
  | nil => rfl
  | cons n ns ih =>
    rw [List.sum_cons, ← Nat.add_assoc] at h
    rw [List.map_cons, List.foldl_cons, s.combine_tally (h.mono (Nat.le_add_right _ _)), ih h,
      List.sum_cons, Nat.add_assoc]

end Scalar

namespace DataType

def reach : DataType → Nat
  | scalar _ => 0
  | vector t width => t.reach + (width - 1)

/-- The sample of an index, as long as it does not leave the range of indices. -/
def value : (t : DataType) → Nat → t.Value
  | scalar s, i => s.sample i
  | vector t width, i => (Vector.range width).map fun lane ↦ t.value (i + lane)

theorem sample_eq_value (t : DataType) {i : Nat} (h : i + t.reach < wordLimit) :
    t.sample i = .ok (t.value i) := by
  induction t generalizing i with
  | scalar s => rfl
  | vector t width ih =>
    rw [reach] at h
    refine vector_mapM_eq_ok fun lane hlane ↦ ?_
    have hlt : lane < width := Vector.mem_range.1 hlane
    have ha : addWord i lane = .ok (i + lane) := if_pos (by omega)
    rw [ha]
    exact ih (by omega)

theorem value_beq (t : DataType) (i : Nat) : (t.value i == t.value i) = true := by
  induction t generalizing i with
  | scalar s =>
    rw [value, Scalar.sample_eq_tally]
    have hh : s.Holds (s.weight i) := fun _ ↦ (s.weight_lt i).trans (by decide)
    exact (s.equal_tally_iff hh hh).2 rfl
  | vector t width ih =>
    change (Vector.zipWith t.equal _ _).toList.all id = true
    rw [Vector.zipWith_self, Vector.toList_map, List.all_map, List.all_eq_true]
    intro v hv
    obtain ⟨lane, -, rfl⟩ := Vector.mem_map.1 (Vector.mem_toList_iff.1 hv)
    exact ih (i + lane)

end DataType

end Coverage

end Conformance
