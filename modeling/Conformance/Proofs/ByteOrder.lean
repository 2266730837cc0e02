import Mathlib.Algebra.Group.Nat.Defs
import Mathlib.Data.List.Lex
import Mathlib.Tactic.SplitIfs

namespace Conformance.Bytes

def ofText (s : String) : List UInt8 := s.toUTF8.data.toList

theorem ofText_eq (s : String) : ofText s = s.toList.flatMap String.utf8EncodeChar := by
  conv_lhs => rw [ofText, ← String.ofList_toList (s := s), String.toUTF8_eq_toByteArray,
    String.toByteArray_ofList]
  exact List.toList_data_toByteArray

def continued (lead : Nat) : Nat → Nat → List UInt8
  | 0, n => [UInt8.ofNat (n + lead)]
  | k + 1, n => continued lead k (n / 64) ++ [UInt8.ofNat (n % 64 + 128)]

theorem ofNat_lt {m n : Nat} (h : m < n) (hn : n < 256) : UInt8.ofNat m < UInt8.ofNat n := by
  rw [UInt8.lt_iff_toNat_lt, UInt8.toNat_ofNat_of_lt' (Nat.lt_trans h hn),
    UInt8.toNat_ofNat_of_lt' hn]
  exact h

theorem continued_eq_cons (lead k n : Nat) :
    ∃ rest, continued lead k n = UInt8.ofNat (n / 64 ^ k + lead) :: rest := by
  induction k generalizing n with
  | zero => exact ⟨[], by simp [continued]⟩
  | succ k ih =>
    obtain ⟨rest, h⟩ := ih (n / 64)
    refine ⟨rest ++ [UInt8.ofNat (n % 64 + 128)], ?_⟩
    rw [continued, h, Nat.div_div_eq_div_mul, ← Nat.pow_succ', List.cons_append]

/-- Of two numbers with equally many bytes, the first digit that differs decides. -/
theorem continued_lt {lead k m n : Nat} (h : m < n) (hn : n / 64 ^ k + lead < 256)
    (s t : List UInt8) : continued lead k m ++ s < continued lead k n ++ t := by
  induction k generalizing m n s t with
  | zero =>
    rw [Nat.pow_zero, Nat.div_one] at hn
    exact .rel (ofNat_lt (by omega) hn)
  | succ k ih =>
    simp only [continued, List.append_assoc]
    have hle : m / 64 ≤ n / 64 := Nat.div_le_div_right (Nat.le_of_lt h)
    rcases Nat.lt_or_eq_of_le hle with hq | hq
    · exact ih hq (by rwa [Nat.div_div_eq_div_mul, ← Nat.pow_succ']) _ _
    · rw [hq]
      exact List.append_left_lt (.rel (ofNat_lt (by omega) (by omega)))

theorem continued_lt_of_first {lead lead' k k' m n : Nat}
    (h : m / 64 ^ k + lead < n / 64 ^ k' + lead') (hn : n / 64 ^ k' + lead' < 256)
    (s t : List UInt8) : continued lead k m ++ s < continued lead' k' n ++ t := by
  obtain ⟨rest, hm⟩ := continued_eq_cons lead k m
  obtain ⟨rest', hn'⟩ := continued_eq_cons lead' k' n
  rw [hm, hn']
  exact .rel (ofNat_lt h hn)

def following (n : Nat) : Nat :=
  if n ≤ 0x7f then 0 else if n ≤ 0x7ff then 1 else if n ≤ 0xffff then 2 else 3

def lead : Nat → Nat
  | 0 => 0
  | 1 => 0xc0
  | 2 => 0xe0
  | _ => 0xf0

theorem codePoint_lt (c : Char) : c.val.toNat < 0x110000 := by
  rcases c.valid with h | h <;> omega

theorem encode_eq (c : Char) : String.utf8EncodeChar c =
    continued (lead (following c.val.toNat)) (following c.val.toNat) c.val.toNat := by
  have hc := codePoint_lt c
  unfold String.utf8EncodeChar following
  dsimp only
  generalize c.val.toNat = n at *
  -- What is left of the number for the first byte is less than that byte has room for.
  split_ifs <;> simp (disch := omega) only [lead, continued, Nat.div_div_eq_div_mul,
    Nat.mod_eq_of_lt, Nat.reduceMul, Nat.add_zero, List.cons_append, List.nil_append]

theorem encode_lt {c d : Char} (h : c < d) (s t : List UInt8) :
    String.utf8EncodeChar c ++ s < String.utf8EncodeChar d ++ t := by
  have hlt : c.val.toNat < d.val.toNat := h
  have hd := codePoint_lt d
  rw [encode_eq, encode_eq]
  generalize c.val.toNat = m at *
  generalize d.val.toNat = n at *
  have hn : n / 64 ^ following n + lead (following n) < 256 := by
    unfold following
    split_ifs <;> simp only [lead] <;> omega
  by_cases hf : following m = following n
  · rw [hf]
    exact continued_lt hlt hn s t
  · refine continued_lt_of_first ?_ hn s t
    unfold following at hf ⊢
    split_ifs at hf ⊢ <;> simp only [lead] <;> omega

theorem encode_ne_nil (c : Char) : String.utf8EncodeChar c ≠ [] := by
  obtain ⟨rest, h⟩ :=
    continued_eq_cons (lead (following c.val.toNat)) (following c.val.toNat) c.val.toNat
  rw [encode_eq, h]
  exact List.cons_ne_nil _ _

theorem flatMap_encode_lt {cs ds : List Char} (h : cs < ds) :
    cs.flatMap String.utf8EncodeChar < ds.flatMap String.utf8EncodeChar := by
  induction h with
  | @nil d ds =>
    obtain ⟨b, bs, hb⟩ := List.exists_cons_of_ne_nil (encode_ne_nil d)
    simp [hb]
  | rel h => exact encode_lt h _ _
  | cons _ ih => exact List.append_left_lt ih

theorem ofText_lt_iff {a b : String} : ofText a < ofText b ↔ a < b := by
  rw [ofText_eq, ofText_eq, String.lt_iff]
  constructor
  · intro h
    rcases Std.lt_trichotomy a.toList b.toList with hl | he | hl
    · exact hl
    · rw [he] at h
      exact absurd h (List.lt_irrefl _)
    · exact absurd h (List.lt_asymm (flatMap_encode_lt hl))
  · exact flatMap_encode_lt

end Conformance.Bytes
