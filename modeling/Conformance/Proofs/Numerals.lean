import Conformance.Text.Numeral
import Mathlib.Data.List.Induction

namespace Conformance.Numeral

theorem isDigit_digitChar {d : Nat} (h : d < 10) : isDigit (digitChar d) = true := by
  have hall : ∀ d < 10, isDigit (digitChar d) = true := by decide
  exact hall d h

theorem digitValue_digitChar {d : Nat} (h : d < 10) : digitValue (digitChar d) = d := by
  have hall : ∀ d < 10, digitValue (digitChar d) = d := by decide
  exact hall d h

theorem digits_of_lt {n : Nat} (h : n < 10) : digits n = [digitChar n] := by
  rw [digits, if_pos h]

theorem digits_of_le {n : Nat} (h : 10 ≤ n) :
    digits n = digits (n / 10) ++ [digitChar (n % 10)] := by
  rw [digits, if_neg (by omega)]

theorem digits_ne_nil (n : Nat) : digits n ≠ [] := by
  rcases Nat.lt_or_ge n 10 with h | h
  · simp [digits_of_lt h]
  · simp [digits_of_le h]

theorem isDigit_of_mem_digits {n : Nat} {c : Char} (h : c ∈ digits n) : isDigit c = true := by
  induction n using digits.induct with
  | case1 n hn =>
    rw [digits_of_lt hn, List.mem_singleton] at h
    rw [h]
    exact isDigit_digitChar hn
  | case2 n hn ih =>
    rw [digits_of_le (by omega), List.mem_append, List.mem_singleton] at h
    rcases h with h | rfl
    · exact ih h
    · exact isDigit_digitChar (Nat.mod_lt n (by decide))

theorem valueFrom_append (acc : Nat) (cs ds : List Char) :
    valueFrom acc (cs ++ ds) = (valueFrom acc cs).bind fun n ↦ valueFrom n ds := by
  induction cs generalizing acc with
  | nil => rfl
  | cons c cs ih =>
    simp only [List.cons_append, valueFrom]
    split
    · exact ih _
    · rfl

theorem valueFrom_digits (n : Nat) : valueFrom 0 (digits n) = some n := by
  induction n using digits.induct with
  | case1 n hn =>
    simp [digits_of_lt hn, valueFrom, isDigit_digitChar hn, digitValue_digitChar hn]
  | case2 n hn ih =>
    have hm : n % 10 < 10 := Nat.mod_lt n (by decide)
    rw [digits_of_le (by omega), valueFrom_append, ih]
    simp only [Option.bind_some, valueFrom, isDigit_digitChar hm, digitValue_digitChar hm, if_true,
      Option.some.injEq]
    omega

@[simp]
theorem value?_digits (n : Nat) : value? (digits n) = some n := by
  cases hd : digits n with
  | nil => exact absurd hd (digits_ne_nil n)
  | cons c cs =>
    rw [value?, ← hd]
    exact valueFrom_digits n

theorem digits_head?_eq_zero_iff {n : Nat} : (digits n).head? = some '0' ↔ n = 0 := by
  induction n using digits.induct with
  | case1 n hn =>
    have hall : ∀ d < 10, digitChar d = '0' ↔ d = 0 := by decide
    simp [digits_of_lt hn, hall n hn]
  | case2 n hn ih =>
    rw [digits_of_le (by omega), List.head?_append, Option.or_of_isSome (by simp [digits_ne_nil]),
      ih]
    omega

theorem digitChar_digitValue {c : Char} (h : isDigit c = true) : digitChar (digitValue c) = c := by
  simp only [isDigit, Bool.and_eq_true, decide_eq_true_eq] at h
  rw [digitChar, digitValue, Nat.add_sub_cancel' h.1, Char.ofNat_toNat]

theorem digitValue_lt {c : Char} (h : isDigit c = true) : digitValue c < 10 := by
  simp only [isDigit, Bool.and_eq_true, decide_eq_true_eq] at h
  simp only [digitValue]
  omega

theorem value?_of_ne_nil {cs : List Char} (h : cs ≠ []) : value? cs = valueFrom 0 cs := by
  cases cs with
  | nil => exact absurd rfl h
  | cons c cs => rfl

theorem valueFrom_zeros (k : Nat) (cs : List Char) :
    valueFrom 0 (List.replicate k '0' ++ cs) = valueFrom 0 cs := by
  induction k with
  | zero => rfl
  | succ k ih => exact ih

/-- A run of digits that has a value is the numeral of that value behind some zeros. -/
theorem exists_zeros_of_valueFrom {cs : List Char} {n : Nat} (hne : cs ≠ [])
    (h : valueFrom 0 cs = some n) : ∃ k, cs = List.replicate k '0' ++ digits n := by
  induction cs using List.reverseRecOn generalizing n with
  | nil => exact absurd rfl hne
  | append_singleton ds c ih =>
    rw [valueFrom_append, Option.bind_eq_some_iff] at h
    obtain ⟨m, hm, hc⟩ := h
    have hd : isDigit c = true := by
      by_contra hd
      simp [valueFrom, hd] at hc
    have hn : 10 * m + digitValue c = n := by simpa [valueFrom, hd] using hc
    have hlt := digitValue_lt hd
    by_cases hds : ds = []
    · subst hds
      cases hm
      refine ⟨0, ?_⟩
      rw [← hn, digits_of_lt (by omega), Nat.mul_zero, Nat.zero_add, digitChar_digitValue hd]
      rfl
    · obtain ⟨k, hk⟩ := ih hds hm
      by_cases hm0 : m = 0
      · -- Nothing but zeros stands before the last digit.
        subst hm0
        refine ⟨k + 1, ?_⟩
        have hz : digits 0 = ['0'] := by rw [digits_of_lt (by decide)]; rfl
        rw [← hn, digits_of_lt (by omega), Nat.mul_zero, Nat.zero_add, digitChar_digitValue hd, hk,
          hz, List.replicate_succ']
      · refine ⟨k, ?_⟩
        rw [← hn, digits_of_le (by omega), hk, List.append_assoc]
        have hq : (10 * m + digitValue c) / 10 = m := by omega
        have hr : (10 * m + digitValue c) % 10 = digitValue c := by omega
        rw [hq, hr, digitChar_digitValue hd]

theorem value?_eq_some_iff {cs : List Char} {n : Nat} :
    value? cs = some n ↔ ∃ k, cs = List.replicate k '0' ++ digits n := by
  constructor
  · intro h
    have hne : cs ≠ [] := by
      rintro rfl
      cases h
    rw [value?_of_ne_nil hne] at h
    exact exists_zeros_of_valueFrom hne h
  · rintro ⟨k, rfl⟩
    rw [value?_of_ne_nil (by simp [digits_ne_nil]), valueFrom_zeros, valueFrom_digits]

/-- A number below the limit in decimal digits; zeros may come before them and a plus sign first. -/
def Writes (limit : Nat) (cs : List Char) (n : Nat) : Prop :=
  n < limit ∧ ∃ k, cs = List.replicate k '0' ++ digits n ∨
    cs = '+' :: (List.replicate k '0' ++ digits n)

theorem readNat_eq_some_iff {limit : Nat} {cs : List Char} {n : Nat} :
    readNat limit cs = some n ↔ Writes limit cs n := by
  have hplus (cs : List Char) : value? ('+' :: cs) = none := rfl
  unfold readNat Writes
  rw [Option.filter_eq_some_iff, decide_eq_true_eq, and_comm, exists_or, ← value?_eq_some_iff]
  refine and_congr_right fun _ ↦ ?_
  split
  · next rest => simp [hplus, value?_eq_some_iff]
  · next hcs =>
    have hno : ¬ ∃ k, cs = '+' :: (List.replicate k '0' ++ digits n) := fun ⟨k, hk⟩ ↦ hcs _ hk
    simp [hno]

end Conformance.Numeral
