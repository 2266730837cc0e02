import Conformance.Json.Overlay
import Conformance.Toml.Basic
import Mathlib.Data.List.Nodup
import Mathlib.Data.String.Basic

namespace Conformance

namespace Dictionary

variable {α : Type} {d : Dictionary α}

def Sorted (d : Dictionary α) : Prop := d.keys.Pairwise (· < ·)

theorem get?_cons (k k' : String) (a : α) (d : Dictionary α) :
    get? ((k, a) :: d) k' = if k' = k then some a else d.get? k' := by
  by_cases h : k' = k
  · simp [get?, h]
  · have hb : (k' == k) = false := beq_eq_false_iff_ne.2 h
    simp [get?, List.lookup_cons, hb, h]

theorem get?_insert (d : Dictionary α) (k k' : String) (a : α) :
    (d.insert k a).get? k' = if k' = k then some a else d.get? k' := by
  induction d with
  | nil => exact get?_cons k k' a []
  | cons e rest ih =>
    obtain ⟨k₁, a₁⟩ := e
    rw [insert]
    split
    · next h =>
      subst h
      rw [get?_cons, get?_cons]
      split <;> rfl
    · next h =>
      split
      · rw [get?_cons]
      · rw [get?_cons, get?_cons, ih]
        by_cases h₁ : k' = k₁
        · have h₂ : k' ≠ k := fun h' ↦ h (h'.symm.trans h₁)
          rw [if_pos h₁, if_neg h₂, if_pos h₁]
        · rw [if_neg h₁, if_neg h₁]

theorem mem_keys_insert {k k' : String} {a : α} (h : k' ∈ (d.insert k a).keys) :
    k' = k ∨ k' ∈ d.keys := by
  induction d with
  | nil => simpa [insert, keys] using h
  | cons e rest ih =>
    obtain ⟨k₁, a₁⟩ := e
    rw [insert] at h
    simp only [keys, List.map_cons, List.mem_cons] at ih ⊢
    split at h
    · simp only [keys, List.map_cons, List.mem_cons] at h
      exact h.imp_right .inr
    · split at h
      · simpa [keys] using h
      · simp only [keys, List.map_cons, List.mem_cons] at h
        obtain h | h := h
        · exact .inr (.inl h)
        · exact (ih h).imp_right .inr

theorem forall_mem_insert {P : String × α → Prop} {k : String} {a : α} (h : P (k, a))
    (hd : ∀ e ∈ d, P e) : ∀ e ∈ d.insert k a, P e := by
  induction d with
  | nil => exact List.forall_mem_singleton.2 h
  | cons e d ih =>
    obtain ⟨he, hd⟩ := List.forall_mem_cons.1 hd
    rw [insert]
    split
    · exact List.forall_mem_cons.2 ⟨h, hd⟩
    · split
      · exact List.forall_mem_cons.2 ⟨h, List.forall_mem_cons.2 ⟨he, hd⟩⟩
      · exact List.forall_mem_cons.2 ⟨he, ih hd⟩

theorem Sorted.insert (h : d.Sorted) (k : String) (a : α) : (d.insert k a).Sorted := by
  induction d with
  | nil => exact List.pairwise_singleton _ _
  | cons e rest ih =>
    obtain ⟨k₁, a₁⟩ := e
    obtain ⟨hlt, hrest⟩ := List.pairwise_cons.1 h
    rw [Dictionary.insert]
    split
    · next he =>
      subst he
      exact h
    · next hne =>
      split
      · next hk =>
        refine List.pairwise_cons.2 ⟨?_, h⟩
        intro k' hk'
        obtain rfl | hk' := List.mem_cons.1 hk'
        · exact hk
        · exact hk.trans (hlt k' hk')
      · next hk =>
        refine List.pairwise_cons.2 ⟨?_, ih hrest⟩
        intro k' hk'
        obtain rfl | hk' := mem_keys_insert hk'
        · exact lt_of_le_of_ne (not_lt.1 hk) fun he ↦ hne he.symm
        · exact hlt k' hk'

theorem get?_eq_none {k : String} (h : k ∉ d.keys) : d.get? k = none := by
  induction d with
  | nil => rfl
  | cons e rest ih =>
    obtain ⟨hk, hr⟩ := not_or.1 (mt List.mem_cons.2 h)
    rw [get?_cons, if_neg hk]
    exact ih hr

theorem mem_keys_iff {k : String} : k ∈ d.keys ↔ d.get? k ≠ none := by
  constructor
  · intro hk hn
    obtain ⟨e, he, rfl⟩ := List.mem_map.1 hk
    exact absurd (List.lookup_eq_none_iff.1 hn e he) (by simp)
  · exact not_imp_comm.1 get?_eq_none

theorem Sorted.get?_rest {e : String × α} (h : Sorted (e :: d)) : d.get? e.1 = none :=
  get?_eq_none fun hk ↦ lt_irrefl _ ((List.pairwise_cons.1 h).1 e.1 hk)

theorem get?_foldl_insert (entries : List (String × α)) (d : Dictionary α) (k : String) :
    (entries.foldl (fun d e ↦ d.insert e.1 e.2) d).get? k =
      (entries.reverse.lookup k).or (d.get? k) := by
  induction entries generalizing d with
  | nil => rfl
  | cons e rest ih =>
    have he : (d.insert e.1 e.2).get? k = (List.lookup k [e]).or (d.get? k) := by
      rw [get?_insert]
      change _ = (get? [(e.1, e.2)] k).or _
      rw [get?_cons]
      split <;> rfl
    rw [List.foldl_cons, ih, he, List.reverse_cons, List.lookup_append, Option.or_assoc]

theorem get?_ofList (entries : List (String × α)) (k : String) :
    (ofList entries).get? k = entries.reverse.lookup k :=
  (get?_foldl_insert entries [] k).trans (Option.or_none)

theorem sorted_ofList (entries : List (String × α)) : (ofList entries).Sorted := by
  have h : ∀ d : Dictionary α, d.Sorted →
      Sorted (entries.foldl (fun d e ↦ d.insert e.1 e.2) d) := by
    induction entries with
    | nil => exact fun d hd ↦ hd
    | cons e rest ih => exact fun d hd ↦ ih _ (hd.insert e.1 e.2)
  exact h [] List.Pairwise.nil

theorem mem_of_get? {k : String} {a : α} (h : d.get? k = some a) : (k, a) ∈ d := by
  obtain ⟨before, after, he, -⟩ := List.lookup_eq_some_iff.1 h
  rw [he]
  exact List.mem_append_right _ List.mem_cons_self

theorem get?_eq_some_iff (h : d.keys.Nodup) {k : String} {a : α} :
    d.get? k = some a ↔ (k, a) ∈ d := by
  refine ⟨mem_of_get?, fun hm ↦ ?_⟩
  induction d with
  | nil => cases hm
  | cons e rest ih =>
    obtain ⟨hnew, hrest⟩ := List.nodup_cons.1 h
    rw [get?_cons]
    obtain rfl | hm := List.mem_cons.1 hm
    · exact if_pos rfl
    · have hk : k ≠ e.1 := by
        rintro rfl
        exact hnew (List.mem_map.2 ⟨_, hm, rfl⟩)
      rw [if_neg hk]
      exact ih hrest hm

/-- Where no name stands twice, the order of the names is all the same. -/
theorem lookup_reverse_of_nodup (h : d.keys.Nodup) (k : String) :
    d.reverse.lookup k = d.get? k := by
  have hr : keys d.reverse = d.keys.reverse := List.map_reverse
  apply Option.ext
  intro a
  change get? d.reverse k = some a ↔ _
  rw [get?_eq_some_iff h, get?_eq_some_iff (hr ▸ List.nodup_reverse.2 h), List.mem_reverse]

theorem Sorted.nodup (h : d.Sorted) : d.keys.Nodup := h.imp ne_of_lt

theorem Sorted.lookup_reverse (h : d.Sorted) (k : String) : d.reverse.lookup k = d.get? k :=
  lookup_reverse_of_nodup h.nodup k

/-- In increasing order there is one way to write what the names lead to. -/
theorem Sorted.ext {d' : Dictionary α} (h : d.Sorted) (h' : d'.Sorted)
    (he : ∀ k, d.get? k = d'.get? k) : d = d' := by
  have hp : d.Perm d' := by
    rw [List.perm_ext_iff_of_nodup (List.Nodup.of_map _ h.nodup) (List.Nodup.of_map _ h'.nodup)]
    intro e
    rw [← get?_eq_some_iff h.nodup, he, get?_eq_some_iff h'.nodup]
  have anti : ∀ e e' : String × α, e ∈ d → e' ∈ d' → e.1 < e'.1 → e'.1 < e.1 → e = e' := by
    intro e e' _ _ hlt hgt
    exact absurd hgt (lt_asymm hlt)
  exact hp.eq_of_pairwise anti (List.pairwise_map.1 h) (List.pairwise_map.1 h')

end Dictionary

namespace Json

theorem overlay_of_not_obj {base : Json} (h : ∀ bs, base ≠ .obj bs) (top : Json) :
    base.overlay top = top := by
  cases top with
  | obj ms =>
    cases base with
    | obj bs => exact absurd rfl (h bs)
    | _ => rfl
  | _ => cases base <;> rfl

theorem get?_overlayMembers {base top : Dictionary Json} (h : top.Sorted) (k : String) :
    (overlayMembers base top).get? k =
      match top.get? k with
      | none => base.get? k
      | some j => some (((base.get? k).getD .null).overlay j) := by
  induction top generalizing base with
  | nil => rfl
  | cons e rest ih =>
    obtain ⟨k₁, j₁⟩ := e
    rw [overlayMembers, ih (List.pairwise_cons.1 h).2, Dictionary.get?_insert, Dictionary.get?_cons]
    by_cases hk : k = k₁
    · rw [if_pos hk, if_pos hk, hk, h.get?_rest]
    · rw [if_neg hk, if_neg hk]

end Json

namespace Toml

theorem sorted_entriesToJson (entries : List (String × Toml)) : (entriesToJson entries).Sorted := by
  induction entries with
  | nil => exact List.Pairwise.nil
  | cons e rest ih =>
    rw [entriesToJson]
    exact ih.insert e.1 e.2.toJson

theorem lookup_entriesToJson (entries : List (String × Toml)) (name : String) :
    (entriesToJson entries).lookup name = (entries.lookup name).map toJson := by
  induction entries with
  | nil => rfl
  | cons e rest ih =>
    obtain ⟨k, t⟩ := e
    change Dictionary.get? (Dictionary.insert k t.toJson (entriesToJson rest)) name =
      (Dictionary.get? ((k, t) :: rest) name).map toJson
    rw [Dictionary.get?_insert, Dictionary.get?_cons]
    by_cases hk : name = k
    · rw [if_pos hk, if_pos hk]
      rfl
    · rw [if_neg hk, if_neg hk]
      exact ih

/-- An object that comes from a document names each member once, and its members come from that
document, too. -/
theorem toJson_eq_obj {t : Toml} {ms : Dictionary Json} (h : t.toJson = .obj ms) :
    ms.Sorted ∧ ∀ k j, ms.get? k = some j → ∃ t' : Toml, t'.toJson = j := by
  cases t with
  | table entries =>
    rw [toJson] at h
    cases h
    refine ⟨sorted_entriesToJson entries, ?_⟩
    intro k j hj
    have hl : (entries.lookup k).map toJson = some j := lookup_entriesToJson entries k ▸ hj
    obtain ⟨t, -, ht⟩ := Option.map_eq_some_iff.1 hl
    exact ⟨t, ht⟩
  | dateTime d =>
    rw [toJson] at h
    cases h
    refine ⟨List.pairwise_singleton _ _, fun k j hj ↦ ?_⟩
    rw [Dictionary.get?_cons] at hj
    split at hj
    · exact ⟨.string d.text, by rw [toJson]; exact Option.some.inj hj⟩
    · cases hj
  | float x =>
    rw [toJson] at h
    split at h <;> cases h
  | _ =>
    rw [toJson] at h
    cases h

end Toml

end Conformance
