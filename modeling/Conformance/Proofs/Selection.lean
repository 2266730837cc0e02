import Conformance.Proofs.Registration
import Conformance.Session

namespace Conformance

theorem filter_eq_singleton {α β : Type} [BEq β] [LawfulBEq β] {f : α → β} {l : List α} {a : α}
    (h : (l.map f).Nodup) (ha : a ∈ l) : l.filter (fun b ↦ f b == f a) = [a] := by
  induction l with
  | nil => cases ha
  | cons b l ih =>
    rw [List.map_cons, List.nodup_cons] at h
    rcases List.mem_cons.1 ha with rfl | ha
    · have hl : l.filter (fun b ↦ f b == f a) = [] := by
        rw [List.filter_eq_nil_iff]
        intro b hb he
        exact h.1 (List.mem_map.2 ⟨b, hb, by simpa using he⟩)
      simp [hl]
    · have hb : f b ≠ f a := fun he ↦ h.1 (List.mem_map.2 ⟨a, ha, he.symm⟩)
      rw [List.filter_cons_of_neg (by simpa using hb)]
      exact ih h.2 ha

namespace Session

variable {s : Session} {f : TestFilter} {selected : List TestCase}

def selection (s : Session) (f : TestFilter) : List TestCase :=
  s.registry.entries.toList.filter fun t ↦ f.selects t.name && !s.isExcluded t.name

theorem candidates_eq_ok_iff (h : s.registry.Indexed) :
    s.candidates f = .ok selected ↔
      selected = s.registry.entries.toList.filter (fun t ↦ f.selects t.name) ∧
      ∀ name, f = .exact name → ∃ t ∈ s.registry.entries.toList, t.name = name := by
  cases f with
  | exact name =>
    simp only [candidates, TestFilter.selects, TestFilter.exact.injEq, forall_eq']
    cases hf : s.registry.find? name with
    | none =>
      have hfree := h.find?_eq_none_iff.1 hf
      simp only [reduceCtorEq, false_iff]
      rintro ⟨-, t, ht, he⟩
      exact hfree t ht he
    | some t =>
      obtain ⟨ht, rfl⟩ := h.find?_eq_some_iff.1 hf
      rw [filter_eq_singleton h.nodup_names ht]
      simp only [Except.ok.injEq, eq_comm (a := [t])]
      exact ⟨fun he ↦ ⟨he, t, ht, rfl⟩, And.left⟩
  | all | substring _ | pattern _ => simp [candidates, eq_comm]

theorem select_eq_ok_iff (h : s.registry.Indexed) :
    s.select f = .ok selected ↔ selected = s.selection f ∧
      ∀ name, f = .exact name → ∃ t ∈ s.registry.entries.toList, t.name = name := by
  have hs : s.selection f = (s.registry.entries.toList.filter fun t ↦ f.selects t.name).filter
      fun t ↦ !s.isExcluded t.name := by
    rw [List.filter_filter]
    simp only [selection, Bool.and_comm]
  rw [hs]
  cases hc : s.candidates f with
  | error e =>
    simp only [select, hc, Except.map, reduceCtorEq, false_iff, not_and]
    intro _ hx
    have hk := (candidates_eq_ok_iff h).2 ⟨rfl, hx⟩
    rw [hc] at hk
    cases hk
  | ok ts =>
    obtain ⟨rfl, hx⟩ := (candidates_eq_ok_iff h).1 hc
    simp only [select, hc, Except.map, Except.ok.injEq]
    exact ⟨fun he ↦ ⟨he.symm, hx⟩, fun he ↦ he.1.symm⟩

end Session

end Conformance
