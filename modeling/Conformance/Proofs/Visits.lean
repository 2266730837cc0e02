import Conformance.Coverage.TypePack
import Mathlib.Data.List.Basic

namespace Conformance.Coverage

variable {σ : Type} {types : List DataType} {labels : List String} {visit : σ → Visit → σ}

theorem visitEach_eq_none_iff {i : Nat} (s : σ) : visitEach labels visit types i s = none ↔
    types ≠ [] ∧ labels.length < i + types.length := by
  constructor
  · intro h
    refine ⟨?_, Nat.lt_of_not_le fun hle ↦ ?_⟩
    · rintro rfl
      cases h
    · rw [visitEach_eq_some hle] at h
      cases h
  · intro ⟨hn, h⟩
    induction types generalizing i s with
    | nil => exact absurd rfl hn
    | cons t types ih =>
      rw [visitEach]
      cases hl : labels[i]? with
      | none => rfl
      | some label =>
        have hi := (List.getElem?_eq_some_iff.1 hl).1
        rw [List.length_cons] at h
        refine ih _ ?_ (by omega)
        rintro rfl
        rw [List.length_nil] at h
        omega

theorem forTypeAndVectors_eq (s : σ) (v : Visit) :
    forTypeAndVectors visit s v = v.withVectors.foldl visit s := rfl

namespace TypePack

variable {p : TypePack}

theorem forAllTypes_eq (p : TypePack) (visit : σ → Visit → σ) (start : σ) :
    p.forAllTypes visit start = p.visits.foldl visit start := by
  simp only [forAllTypes, visitEach_types, Option.get_some]

theorem forAllTypesAndVectors_eq (p : TypePack) (visit : σ → Visit → σ) (start : σ) :
    p.forAllTypesAndVectors visit start = p.visitsWithVectors.foldl visit start := by
  rw [forAllTypesAndVectors, forAllTypes_eq, visitsWithVectors, List.foldl_flatMap]
  exact congrArg (p.visits.foldl · start) (funext₂ forTypeAndVectors_eq)

theorem ofLabels_eq_ok_iff :
    ofLabels types labels = .ok p ↔ p.types = types ∧ p.labels = labels := by
  unfold ofLabels
  split
  · constructor
    · rintro ⟨⟩
      exact ⟨rfl, rfl⟩
    · obtain ⟨types', labels', h'⟩ := p
      rintro ⟨rfl, rfl⟩
      rfl
  · next h =>
    refine iff_of_false nofun ?_
    rintro ⟨rfl, rfl⟩
    exact h p.one_label_each

theorem length_visits (p : TypePack) : p.visits.length = p.types.length := by
  rw [visits, List.length_zipWith, p.one_label_each, Nat.min_self]

theorem getElem?_visits {i : Nat} {t : DataType} {label : String} (ht : p.types[i]? = some t)
    (hl : p.labels[i]? = some label) : p.visits[i]? = some ⟨t, label⟩ := by
  rw [visits, List.getElem?_zipWith, ht, hl]

end TypePack

theorem length_flatMap_withVectors (vs : List Visit) :
    (vs.flatMap Visit.withVectors).length = 7 * vs.length := by
  induction vs with
  | nil => rfl
  | cons v vs ih =>
    have hv : v.withVectors.length = 7 := rfl
    rw [List.flatMap_cons, List.length_append, ih, hv, List.length_cons]
    omega

theorem drop_flatMap_withVectors (vs : List Visit) (i : Nat) :
    (vs.flatMap Visit.withVectors).drop (7 * i) = (vs.drop i).flatMap Visit.withVectors := by
  induction vs generalizing i with
  | nil => simp
  | cons v vs ih =>
    cases i with
    | zero => rfl
    | succ i =>
      have hv : v.withVectors.length = 7 := rfl
      rw [List.flatMap_cons, Nat.mul_succ, Nat.add_comm, ← List.drop_drop, List.drop_left' hv, ih]
      rfl

structure InTurn (types : List DataType) (labels : List String) (visits : List Visit) : Prop where
  length : visits.length = types.length
  visit : ∀ (i : Nat) t label, types[i]? = some t → labels[i]? = some label →
    visits[i]? = some ⟨t, label⟩

structure InBlocks (types : List DataType) (labels : List String) (visits : List Visit) : Prop where
  length : visits.length = 7 * types.length
  block : ∀ (i : Nat) t label, types[i]? = some t → labels[i]? = some label →
    (visits.drop (7 * i)).take 7 = ⟨t, label⟩ :: vectorWidths.map fun width ↦
      ⟨.vector t width, "vec<" ++ label ++ ", " ++ shown width ++ ">"⟩

theorem TypePack.inTurn (p : TypePack) : InTurn p.types p.labels p.visits where
  length := p.length_visits
  visit _ _ _ ht hl := getElem?_visits ht hl

theorem TypePack.inBlocks (p : TypePack) : InBlocks p.types p.labels p.visitsWithVectors where
  length := by rw [visitsWithVectors, length_flatMap_withVectors, length_visits]
  block i t label ht hl := by
    obtain ⟨hi, hv⟩ := List.getElem?_eq_some_iff.1 (getElem?_visits ht hl)
    rw [visitsWithVectors, drop_flatMap_withVectors, List.drop_eq_getElem_cons hi, hv]
    rfl

/-- A pack is made just if there is one label for each type, and just fewer labels would leave a
visit without one. Whatever a visitor keeps between its visits, it visits each type once in turn
under its own label; with vectors, each type in turn is followed by its vectors of all widths. A
vector needs what its element needs. -/
theorem visits_in_order (types : List DataType) (labels : List String) :
    ((∃ p, TypePack.ofLabels types labels = .ok p) ↔ labels.length = types.length) ∧
    (∀ (σ : Type) (visit : σ → Visit → σ) (start : σ),
      visitEach labels visit types 0 start = none ↔ labels.length < types.length) ∧
    (∀ p, TypePack.ofLabels types labels = .ok p →
      InTurn types labels p.visits ∧ InBlocks types labels p.visitsWithVectors ∧
      ∀ (σ : Type) (visit : σ → Visit → σ) (start : σ),
        visitEach labels visit types 0 start = some (p.forAllTypes visit start) ∧
        p.forAllTypes visit start = p.visits.foldl visit start ∧
        p.forAllTypesAndVectors visit start = p.visitsWithVectors.foldl visit start) ∧
    ∀ (t : DataType) (width : Nat), (DataType.vector t width).requires = t.requires := by
  refine ⟨⟨?_, ?_⟩, fun σ visit start ↦ ?_, ?_, fun t width ↦ rfl⟩
  · rintro ⟨p, hp⟩
    obtain ⟨rfl, rfl⟩ := TypePack.ofLabels_eq_ok_iff.1 hp
    exact p.one_label_each
  · intro h
    exact ⟨⟨types, labels, h⟩, TypePack.ofLabels_eq_ok_iff.2 ⟨rfl, rfl⟩⟩
  · rw [visitEach_eq_none_iff, Nat.zero_add]
    refine and_iff_right_of_imp ?_
    rintro h rfl
    exact absurd h (Nat.not_lt_zero _)
  · intro p hp
    obtain ⟨rfl, rfl⟩ := TypePack.ofLabels_eq_ok_iff.1 hp
    refine ⟨p.inTurn, p.inBlocks, fun σ visit start ↦ ⟨?_, ?_, ?_⟩⟩
    · rw [p.visitEach_types, p.forAllTypes_eq]
    · exact p.forAllTypes_eq visit start
    · exact p.forAllTypesAndVectors_eq visit start

end Conformance.Coverage
