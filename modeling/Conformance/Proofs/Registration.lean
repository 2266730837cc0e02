import Conformance.Registry
import Mathlib.Data.List.Nodup

namespace Conformance

/-- The registries that any sequence of registrations leads to; a refused one changes nothing. -/
inductive Registry.Reachable : Registry → Prop
  | empty : Reachable .empty
  | register {r r' : Registry} {t : TestCase} :
      Reachable r → r.register t = .ok r' → Reachable r'

namespace Registry

/-- The index leads from a name to the position of a test of that name, and from no other. -/
def Indexed (r : Registry) : Prop :=
  ∀ name i, r.index[name]? = some i ↔ ∃ t : TestCase, r.entries[i]? = some t ∧ t.name = name

variable {r r' : Registry} {t : TestCase} {name : String}

theorem empty_indexed : empty.Indexed := by
  intro name i
  simp [empty]

theorem Indexed.find?_eq_none_iff (h : r.Indexed) :
    r.find? name = none ↔ ∀ t ∈ r.entries.toList, t.name ≠ name := by
  constructor
  · intro hn t ht he
    obtain ⟨i, hi⟩ := List.mem_iff_getElem?.1 ht
    rw [Array.getElem?_toList] at hi
    have hx : r.index[name]? = some i := (h name i).2 ⟨t, hi, he⟩
    simp [find?, hx, hi] at hn
  · intro hn
    cases hx : r.index[name]? with
    | none => simp [find?, hx]
    | some i =>
      obtain ⟨t, ht, he⟩ := (h name i).1 hx
      exact absurd he (hn t (List.mem_iff_getElem?.2 ⟨i, by rwa [Array.getElem?_toList]⟩))

theorem Indexed.find?_eq_some_iff (h : r.Indexed) :
    r.find? name = some t ↔ t ∈ r.entries.toList ∧ t.name = name := by
  constructor
  · intro hf
    cases hx : r.index[name]? with
    | none => simp [find?, hx] at hf
    | some i =>
      have ht : r.entries[i]? = some t := by simpa [find?, hx] using hf
      obtain ⟨t', ht', he⟩ := (h name i).1 hx
      rw [ht] at ht'
      cases ht'
      exact ⟨List.mem_iff_getElem?.2 ⟨i, by rwa [Array.getElem?_toList]⟩, he⟩
  · rintro ⟨ht, he⟩
    obtain ⟨i, hi⟩ := List.mem_iff_getElem?.1 ht
    rw [Array.getElem?_toList] at hi
    have hx : r.index[name]? = some i := (h name i).2 ⟨t, hi, he⟩
    simp [find?, hx, hi]

theorem register_eq_ok_iff :
    r.register t = .ok r' ↔ r.find? t.name = none ∧
      r' = ⟨r.entries.push t, r.index.insert t.name r.entries.size⟩ := by
  unfold register
  cases r.find? t.name with
  | none => simp [eq_comm]
  | some earlier => simp

theorem Indexed.register (h : r.Indexed) (hr : r.register t = .ok r') : r'.Indexed := by
  obtain ⟨hf, rfl⟩ := register_eq_ok_iff.1 hr
  have hfree := h.find?_eq_none_iff.1 hf
  intro name i
  rw [Std.HashMap.getElem?_insert, Array.getElem?_push]
  by_cases hn : t.name = name
  · subst hn
    simp only [BEq.rfl, if_true, Option.some.injEq]
    constructor
    · rintro rfl
      exact ⟨t, by simp, rfl⟩
    · rintro ⟨t', ht', he⟩
      split at ht'
      · rename_i hi
        exact hi.symm
      · exact absurd he (hfree t' (List.mem_iff_getElem?.2 ⟨i, by rwa [Array.getElem?_toList]⟩))
  · rw [if_neg (by simpa using hn), h name i]
    constructor
    · rintro ⟨t', ht', he⟩
      have hi : i ≠ r.entries.size := by
        rintro rfl
        simp at ht'
      exact ⟨t', by rwa [if_neg hi], he⟩
    · rintro ⟨t', ht', he⟩
      split at ht'
      · cases ht'
        exact absurd he hn
      · exact ⟨t', ht', he⟩

theorem Reachable.indexed (h : r.Reachable) : r.Indexed := by
  induction h with
  | empty => exact empty_indexed
  | register _ hr ih => exact ih.register hr

def single (t : TestCase) : Registry := ⟨#[t], (∅ : Std.HashMap String Nat).insert t.name 0⟩

theorem register_empty (t : TestCase) : empty.register t = .ok (single t) :=
  register_eq_ok_iff.2 ⟨empty_indexed.find?_eq_none_iff.2 (by simp [empty]), rfl⟩

theorem single_reachable (t : TestCase) : (single t).Reachable :=
  .register .empty (register_empty t)

theorem ofAnnounced_singleton (t : TestCase) : ofAnnounced [t] = .ok (single t) := by
  simp only [ofAnnounced, List.mergeSort_singleton, ofList, List.foldlM_cons, List.foldlM_nil,
    register_empty]
  rfl

def pair (t u : TestCase) : Registry :=
  ⟨#[t, u], ((∅ : Std.HashMap String Nat).insert t.name 0).insert u.name 1⟩

theorem pair_reachable {t u : TestCase} (h : t.name ≠ u.name) : (pair t u).Reachable := by
  have ht := single_reachable t
  refine .register ht (register_eq_ok_iff.2 ⟨ht.indexed.find?_eq_none_iff.2 ?_, rfl⟩)
  simpa [single] using h

theorem Indexed.nodup_names (h : r.Indexed) : (r.entries.toList.map TestCase.name).Nodup := by
  rw [List.nodup_iff_getElem?_ne_getElem?]
  intro i j hij hj he
  have hj : j < r.entries.size := by simpa using hj
  obtain ⟨t, ht⟩ : ∃ t, r.entries[j]? = some t := ⟨r.entries[j], Array.getElem?_eq_getElem hj⟩
  have hi : r.index[t.name]? = some i := by
    rw [h t.name i]
    simpa [ht] using he
  have hj' : r.index[t.name]? = some j := (h t.name j).2 ⟨t, ht, rfl⟩
  rw [hi] at hj'
  cases hj'
  exact absurd hij (Nat.lt_irrefl i)

end Registry

end Conformance
