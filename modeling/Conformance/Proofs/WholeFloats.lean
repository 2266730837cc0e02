import Mathlib

namespace Conformance.WholeFloats

open Float.Model Float.Model.UnpackedFloat

variable {spec : Format} {n : Nat}

def room (spec : Format) (n : Nat) : Nat := spec.mantissaBitsWithoutImplicit - n.log2

theorem shiftLeft_pos (hn : n ≠ 0) (k : Nat) : 0 < n <<< k := by
  rw [Nat.shiftLeft_eq]
  exact Nat.mul_pos (Nat.pos_of_ne_zero hn) (Nat.two_pow_pos k)

def whole (spec : Format) (n : Nat) : UnpackedFloat :=
  if hn : n = 0 then .zero .positive
  else .finite .positive (n <<< room spec n) (-room spec n) (shiftLeft_pos hn _)

theorem log2_shiftLeft (hn : n ≠ 0) (k : Nat) : (n <<< k).log2 = n.log2 + k := by
  induction k with
  | zero => rfl
  | succ k ih =>
    rw [Nat.shiftLeft_succ, Nat.log2_two_mul (shiftLeft_pos hn k).ne', ih, Nat.add_assoc]

theorem shiftLeft_shiftRight (m k : Nat) :
    (⟨m <<< k, false, false⟩ : ExtendedMantissa) >>> k = ⟨m, false, false⟩ := by
  change Nat.repeat ExtendedMantissa.shiftRightOne k _ = _
  induction k generalizing m with
  | zero => rfl
  | succ k ih =>
    have hm : m <<< (k + 1) = (2 * m) <<< k := by
      simp only [Nat.shiftLeft_eq, Nat.pow_succ]
      ring
    rw [Nat.repeat, hm, ih, ExtendedMantissa.shiftRightOne]
    simp

theorem decreaseExponent_eq {k : Nat} (hk : room spec n ≤ k) :
    decreaseExponent (n <<< room spec n) (-room spec n) (-k) = (n <<< k, -(k : Int)) := by
  have hshift : (-(room spec n : Int) - -(k : Int)).toNat = k - room spec n := by omega
  rw [decreaseExponent]
  simp only [hshift]
  rw [← Nat.shiftLeft_add, Nat.add_sub_cancel' hk]
  congr 1
  omega

theorem implicit_append (hn : n ≠ 0) (hl : n.log2 ≤ spec.mantissaBitsWithoutImplicit) :
    (1#1 ++ BitVec.ofNat spec.mantissaBitsWithoutImplicit (n <<< room spec n)).toNat =
      n <<< room spec n := by
  have hlog : (n <<< room spec n).log2 = spec.mantissaBitsWithoutImplicit := by
    rw [log2_shiftLeft hn, room]
    omega
  have hlow := Nat.log2_self_le (shiftLeft_pos hn (room spec n)).ne'
  have hhigh := Nat.lt_log2_self (n := n <<< room spec n)
  rw [hlog] at hlow hhigh
  rw [Nat.pow_succ] at hhigh
  have hmod := Nat.mod_add_div (n <<< room spec n) (2 ^ spec.mantissaBitsWithoutImplicit)
  have hdiv : n <<< room spec n / 2 ^ spec.mantissaBitsWithoutImplicit = 1 :=
    Nat.div_eq_of_lt_le (by omega) (by omega)
  rw [hdiv] at hmod
  rw [BitVec.toNat_append, ← Nat.shiftLeft_add_eq_or_of_lt (BitVec.isLt _), BitVec.toNat_ofNat,
    BitVec.toNat_ofNat, Nat.shiftLeft_eq]
  omega

section Format

variable (hs : spec.mantissaBitsWithoutImplicit ≤ spec.exponentBias)
include hs

theorem targetExponent_eq (hn : n ≠ 0) (hl : n.log2 ≤ spec.mantissaBitsWithoutImplicit) (k : Nat) :
    spec.targetExponent (totalExponent (n <<< k) (-k)) = -room spec n := by
  have hp : (2 : Int) ^ (spec.exponentBits - 1) = spec.exponentBias + 1 := by
    have h1 : 1 ≤ 2 ^ (spec.exponentBits - 1) := Nat.one_le_two_pow
    rw [Format.exponentBias, Nat.cast_sub h1]
    push_cast
    ring
  have hm := spec.hm
  simp only [Format.targetExponent, totalExponent, Format.minExponent, Format.mantissaBits, hp,
    log2_shiftLeft hn, room]
  omega

theorem shiftToTargetExponent_eq (hn : n ≠ 0) (hl : n.log2 ≤ spec.mantissaBitsWithoutImplicit)
    {k : Nat} (hk : room spec n ≤ k) :
    shiftToTargetExponent spec (n <<< k) (-k) .exact =
      (⟨n <<< room spec n, false, false⟩, -(room spec n : Int)) := by
  have hshift : (-(room spec n : Int) - -(k : Int)).toNat = k - room spec n := by omega
  have hleft : n <<< k = (n <<< room spec n) <<< (k - room spec n) := by
    rw [← Nat.shiftLeft_add, Nat.add_sub_cancel' hk]
  rw [shiftToTargetExponent, targetExponent_eq hs hn hl]
  simp only [shiftToExponent, hshift, ExtendedMantissa.ofMantissaAndAccuracy]
  rw [hleft, shiftLeft_shiftRight]
  congr 1
  omega

theorem roundWithAccuracy_eq (hn : n ≠ 0) (hl : n.log2 ≤ spec.mantissaBitsWithoutImplicit)
    {k : Nat} (hk : room spec n ≤ k) :
    roundWithAccuracy spec .positive (n <<< k) (-k) .exact = whole spec n := by
  have hr : (⟨n <<< room spec n, false, false⟩ : ExtendedMantissa).roundedMantissa =
      n <<< room spec n := rfl
  rw [roundWithAccuracy, shiftToTargetExponent_eq hs hn hl hk]
  simp only [hr, shiftToTargetExponent_eq hs hn hl le_rfl]
  rw [whole, dif_neg hn, dif_neg (shiftLeft_pos hn _).ne']

theorem normalize_eq (hl : n.log2 ≤ spec.mantissaBitsWithoutImplicit) (k : Nat) :
    normalize spec (n <<< k : Nat) (-k) .positive = whole spec n := by
  by_cases hn : n = 0
  · subst hn
    rw [Nat.zero_shiftLeft]
    rfl
  · have hc : compare ((n <<< k : Nat) : Int) 0 = .gt := by
      rw [Int.compare_eq_gt]
      exact Int.natCast_pos.2 (shiftLeft_pos hn k)
    have hshift : (-(k : Int) - -(room spec n : Int)).toNat = room spec n - k := by omega
    have he : (-k : Int) - (room spec n - k : Nat) = -(k + (room spec n - k) : Nat) := by omega
    rw [UnpackedFloat.normalize, hc]
    simp only [UnpackedFloat.round, Int.toNat_natCast, targetExponent_eq hs hn hl,
      decreaseExponent, hshift]
    rw [← Nat.shiftLeft_add, he]
    exact roundWithAccuracy_eq hs hn hl (by omega)

theorem add_whole {a b : Nat} (hl : (a + b).log2 ≤ spec.mantissaBitsWithoutImplicit) :
    UnpackedFloat.add spec (whole spec a) (whole spec b) = whole spec (a + b) := by
  by_cases ha : a = 0
  · subst ha
    rw [Nat.zero_add, whole, dif_pos rfl]
    cases hb : whole spec b with
    | zero s =>
      rw [whole] at hb
      split at hb <;> cases hb
      rfl
    | _ => rfl
  by_cases hb : b = 0
  · subst hb
    rw [Nat.add_zero, whole, dif_neg ha, whole, dif_pos rfl]
    rfl
  -- Both are brought to the exponent of the smaller one, where they are added as they are.
  obtain ⟨k, hk⟩ : ∃ k, k = max (room spec a) (room spec b) := ⟨_, rfl⟩
  have hmin : min (-(room spec a : Int)) (-(room spec b : Int)) = -(k : Int) := by omega
  have hsum : Sign.apply .positive (a <<< k : Nat) + Sign.apply .positive (b <<< k : Nat) =
      ((a + b) <<< k : Nat) := by
    simp only [Sign.apply, Nat.shiftLeft_eq]
    push_cast
    ring
  rw [whole, dif_neg ha, whole, dif_neg hb, UnpackedFloat.add]
  simp only [hmin, hsum, @decreaseExponent_eq spec a k (by omega),
    @decreaseExponent_eq spec b k (by omega)]
  exact normalize_eq hs hl k

theorem exponent_lt :
    spec.exponentBias + spec.mantissaBitsWithoutImplicit + 1 < 2 ^ spec.exponentBits := by
  have he := spec.he
  have h1 : 1 ≤ 2 ^ (spec.exponentBits - 1) := Nat.one_le_two_pow
  have hp : 2 ^ spec.exponentBits = 2 * 2 ^ (spec.exponentBits - 1) := by
    rw [← Nat.pow_succ', Nat.succ_eq_add_one, Nat.sub_add_cancel he]
  rw [Format.exponentBias] at *
  omega

theorem pack_whole (hn : n ≠ 0) (hl : n.log2 ≤ spec.mantissaBitsWithoutImplicit) :
    UnpackedFloat.pack spec (whole spec n) = packComponents spec .positive
      (BitVec.ofNat _ (spec.exponentBias + spec.mantissaBitsWithoutImplicit - room spec n))
      (BitVec.ofNat _ (n <<< room spec n)) := by
  have hb : (-(room spec n : Int) + spec.exponentBias + spec.mantissaBitsWithoutImplicit).toNat =
      spec.exponentBias + spec.mantissaBitsWithoutImplicit - room spec n := by
    omega
  have he := exponent_lt hs
  rw [whole, dif_neg hn, UnpackedFloat.pack]
  simp only [hb, log2_shiftLeft hn]
  rw [if_neg (by omega), if_pos]
  rw [room, Format.mantissaBits]
  omega

theorem unpack_pack_whole (hl : n.log2 ≤ spec.mantissaBitsWithoutImplicit) :
    UnpackedFloat.unpack spec (UnpackedFloat.pack spec (whole spec n)) = whole spec n := by
  have he := exponent_lt hs
  have hones : (-BitVec.ofNat spec.exponentBits 1).toNat = 2 ^ spec.exponentBits - 1 := by
    rw [BitVec.neg_one_eq_allOnes, BitVec.toNat_allOnes]
  by_cases hn : n = 0
  · rw [whole, dif_pos hn]
    exact unpack_packedZero
  · rw [pack_whole hs hn hl, UnpackedFloat.unpack]
    have hm := spec.hm
    have hroom : room spec n ≤ spec.mantissaBitsWithoutImplicit := Nat.sub_le _ _
    have hexp : (BitVec.ofNat spec.exponentBits
        (spec.exponentBias + spec.mantissaBitsWithoutImplicit - room spec n)).toNat =
        spec.exponentBias + spec.mantissaBitsWithoutImplicit - room spec n := by
      rw [BitVec.toNat_ofNat, Nat.mod_eq_of_lt (by omega)]
    have hne1 : BitVec.ofNat spec.exponentBits
        (spec.exponentBias + spec.mantissaBitsWithoutImplicit - room spec n) ≠ -1#_ := by
      intro h
      have h' := congrArg BitVec.toNat h
      rw [hexp, hones] at h'
      omega
    have hne0 : BitVec.ofNat spec.exponentBits
        (spec.exponentBias + spec.mantissaBitsWithoutImplicit - room spec n) ≠ 0#_ := by
      intro h
      have h' := congrArg BitVec.toNat h
      rw [hexp, BitVec.toNat_ofNat, Nat.zero_mod] at h'
      omega
    simp only [unpackMantissa_packComponents, unpackExponent_packComponents,
      unpackSign_packComponents, Sign.ofBitVec_toBitVec, if_neg hne1, if_neg hne0, hexp,
      implicit_append hn hl]
    rw [whole, dif_neg hn]
    congr 1
    omega

end Format

theorem whole_ne_notANumber (spec : Format) (n : Nat) : whole spec n ≠ .notANumber := by
  unfold whole
  split <;> nofun

theorem whole_ne_negative_zero (spec : Format) (n : Nat) : whole spec n ≠ .zero .negative := by
  unfold whole
  split <;> nofun

variable {a b : Nat}

theorem beq_whole_iff : UnpackedFloat.beq (whole spec a) (whole spec b) = true ↔
    whole spec a = whole spec b := by
  rw [beq_iff_ne_notANumber_and_eq]
  constructor
  · rintro ⟨-, -, h | ⟨-, h⟩ | ⟨h, -⟩⟩
    · exact h
    · exact absurd h (whole_ne_negative_zero spec b)
    · exact absurd h (whole_ne_negative_zero spec a)
  · intro h
    exact ⟨whole_ne_notANumber spec a, whole_ne_notANumber spec b, .inl h⟩

theorem log2_le {k : Nat} (h : n < 2 ^ (k + 1)) : n.log2 ≤ k := by
  by_cases hn : n = 0
  · subst hn
    exact Nat.zero_le k
  · exact Nat.le_of_lt_succ ((Nat.log2_lt hn).2 h)

def float32 (n : Nat) : Float32 := .ofModel (.pack (whole .binary32 n))

theorem float32_unpack (h : n < 2 ^ 24) : (float32 n).toModel.unpack = whole .binary32 n :=
  unpack_pack_whole (by decide) (log2_le h)

theorem float32_add (h : a + b < 2 ^ 24) : float32 a + float32 b = float32 (a + b) := by
  change Float32.ofModel (.pack (UnpackedFloat.add .binary32
    (float32 a).toModel.unpack (float32 b).toModel.unpack)) = _
  rw [float32_unpack (by omega), float32_unpack (by omega), add_whole (by decide) (log2_le h)]
  rfl

theorem float32_beq_iff (ha : a < 2 ^ 24) (hb : b < 2 ^ 24) :
    (float32 a == float32 b) = true ↔ float32 a = float32 b := by
  change UnpackedFloat.beq (float32 a).toModel.unpack (float32 b).toModel.unpack = true ↔ _
  rw [float32_unpack ha, float32_unpack hb, beq_whole_iff]
  constructor
  · intro h
    rw [float32, h, float32]
  · intro h
    rw [← float32_unpack ha, h, float32_unpack hb]

theorem float32_ofNat : ∀ n < 7, Float32.ofNat n = float32 n := by decide

def float64 (n : Nat) : Float := .ofModel (.pack (whole .binary64 n))

theorem float64_unpack (h : n < 2 ^ 53) : (float64 n).toModel.unpack = whole .binary64 n :=
  unpack_pack_whole (by decide) (log2_le h)

theorem float64_add (h : a + b < 2 ^ 53) : float64 a + float64 b = float64 (a + b) := by
  change Float.ofModel (.pack (UnpackedFloat.add .binary64
    (float64 a).toModel.unpack (float64 b).toModel.unpack)) = _
  rw [float64_unpack (by omega), float64_unpack (by omega), add_whole (by decide) (log2_le h)]
  rfl

theorem float64_beq_iff (ha : a < 2 ^ 53) (hb : b < 2 ^ 53) :
    (float64 a == float64 b) = true ↔ float64 a = float64 b := by
  change UnpackedFloat.beq (float64 a).toModel.unpack (float64 b).toModel.unpack = true ↔ _
  rw [float64_unpack ha, float64_unpack hb, beq_whole_iff]
  constructor
  · intro h
    rw [float64, h, float64]
  · intro h
    rw [← float64_unpack ha, h, float64_unpack hb]

theorem float64_ofNat : ∀ n < 7, Float.ofNat n = float64 n := by decide

end Conformance.WholeFloats
