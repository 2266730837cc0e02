import Conformance.Proofs.ByteOrder
import Conformance.Proofs.Entering
import Conformance.Proofs.Selection
import Mathlib.Data.List.Induction

namespace Conformance.Registry

variable {tests tests' : List TestCase} {r : Registry} {e : DuplicateTest}

def sorted (tests : List TestCase) : List TestCase := tests.mergeSort fun a b ↦ a.name ≤ b.name

theorem sorted_perm (tests : List TestCase) : (sorted tests).Perm tests :=
  List.mergeSort_perm tests _

theorem name_le_trans (a b c : TestCase) (hab : decide (a.name ≤ b.name) = true)
    (hbc : decide (b.name ≤ c.name) = true) : decide (a.name ≤ c.name) = true :=
  decide_eq_true (String.le_trans (of_decide_eq_true hab) (of_decide_eq_true hbc))

theorem name_le_total (a b : TestCase) :
    (decide (a.name ≤ b.name) || decide (b.name ≤ a.name)) = true := by
  simpa using String.le_total a.name b.name

theorem sorted_pairwise (tests : List TestCase) :
    (sorted tests).Pairwise fun a b ↦ a.name ≤ b.name := by
  have h := List.pairwise_mergeSort name_le_trans name_le_total tests
  exact h.imp of_decide_eq_true

theorem filter_sorted (tests : List TestCase) (name : String) :
    (sorted tests).filter (fun t ↦ t.name == name) = tests.filter fun t ↦ t.name == name := by
  have hp : (tests.filter fun t ↦ t.name == name).Pairwise
      fun a b ↦ decide (a.name ≤ b.name) = true := by
    rw [List.pairwise_filter]
    apply List.pairwise_of_forall
    intro a b ha hb
    have hab : a.name = b.name := (eq_of_beq ha).trans (eq_of_beq hb).symm
    exact decide_eq_true (hab ▸ String.le_refl a.name)
  have hs : (tests.filter fun t ↦ t.name == name).Sublist (sorted tests) :=
    List.sublist_mergeSort name_le_trans name_le_total hp List.filter_sublist
  have hf := hs.filter fun t ↦ t.name == name
  rw [List.filter_filter] at hf
  simp only [Bool.and_self] at hf
  exact (hf.eq_of_length ((sorted_perm tests).filter _).length_eq.symm).symm

inductive Settles (tests : List TestCase) : Except DuplicateTest Registry → Prop
  | through (r : Registry) (hr : r.Indexed) (he : r.entries.toList = tests) : Settles tests (.ok r)
  | stopped (before after : List TestCase) (earlier t : TestCase)
      (ht : tests = before ++ t :: after) (hn : (before.map TestCase.name).Nodup)
      (he : earlier ∈ before) (hs : earlier.name = t.name) :
      Settles tests (.error ⟨t.name, earlier.descriptor.source, t.descriptor.source⟩)

theorem ofList_append_singleton (tests : List TestCase) (t : TestCase) :
    ofList (tests ++ [t]) = (ofList tests).bind fun r ↦ r.register t := by
  rw [ofList, List.foldlM_append]
  change (ofList tests).bind _ = _
  congr 1
  funext r
  rw [List.foldlM_cons]
  cases r.register t <;> rfl

theorem ofList_settles (tests : List TestCase) : Settles tests (ofList tests) := by
  induction tests using List.reverseRecOn with
  | nil => exact .through empty empty_indexed rfl
  | append_singleton tests t ih =>
    rw [ofList_append_singleton]
    generalize ofList tests = settled at ih
    cases ih with
    | through r hr he =>
      subst he
      cases hf : r.find? t.name with
      | none =>
        have ht : r.register t =
            .ok ⟨r.entries.push t, r.index.insert t.name r.entries.size⟩ :=
          register_eq_ok_iff.2 ⟨hf, rfl⟩
        rw [Except.bind, ht]
        exact .through _ (hr.register ht) (by simp)
      | some earlier =>
        obtain ⟨hm, hn⟩ := hr.find?_eq_some_iff.1 hf
        rw [Except.bind, register_eq_error_iff.2 ⟨earlier, hf, rfl⟩]
        exact .stopped _ [] earlier t rfl hr.nodup_names hm hn
    | stopped before after earlier u ht hn he hs =>
      exact .stopped before (after ++ [t]) earlier u (by simp [ht]) hn he hs

theorem ofList_eq_ok (h : ofList tests = .ok r) : r.Indexed ∧ r.entries.toList = tests := by
  have hs := ofList_settles tests
  rw [h] at hs
  cases hs with
  | through r hr he => exact ⟨hr, he⟩

theorem exists_ofList_eq_ok_iff :
    (∃ r, ofList tests = .ok r) ↔ (tests.map TestCase.name).Nodup := by
  constructor
  · rintro ⟨r, h⟩
    obtain ⟨hr, rfl⟩ := ofList_eq_ok h
    exact hr.nodup_names
  · intro hn
    have hs := ofList_settles tests
    generalize ofList tests = settled at hs
    cases hs with
    | through r hr he => exact ⟨r, rfl⟩
    | stopped before after earlier t ht _ he hs =>
      rw [ht, List.map_append, List.nodup_append] at hn
      exact absurd hs (hn.2.2 _ (List.mem_map_of_mem he) _ (by simp))

/-- The first name, by its bytes, of those that more than one test has, with the sources of the
first two tests of that name. -/
structure FirstRepeated (tests : List TestCase) (e : DuplicateTest) : Prop where
  sources : ∃ t u rest, tests.filter (fun t ↦ t.name == e.name) = t :: u :: rest ∧
    e.first = t.descriptor.source ∧ e.second = u.descriptor.source
  least : ∀ name, 2 ≤ (tests.map TestCase.name).count name →
    name = e.name ∨ Bytes.ofText e.name < Bytes.ofText name

theorem count_name (tests : List TestCase) (name : String) :
    (tests.map TestCase.name).count name = (tests.filter fun t ↦ t.name == name).length := by
  rw [List.count_eq_countP, List.countP_map, List.countP_eq_length_filter]
  rfl

theorem FirstRepeated.repeated (h : FirstRepeated tests e) :
    2 ≤ (tests.map TestCase.name).count e.name := by
  obtain ⟨t, u, rest, hf, -, -⟩ := h.sources
  rw [count_name, hf]
  exact Nat.le_add_left 2 rest.length

theorem FirstRepeated.name_eq {e' : DuplicateTest} (h : FirstRepeated tests e)
    (h' : FirstRepeated tests' e') (hp : tests.Perm tests') : e.name = e'.name := by
  have hc (name : String) :
      (tests.map TestCase.name).count name = (tests'.map TestCase.name).count name :=
    (hp.map TestCase.name).count_eq name
  rcases h.least e'.name (by rw [hc]; exact h'.repeated) with he | hlt
  · exact he.symm
  · rcases h'.least e.name (by rw [← hc]; exact h.repeated) with he | hlt'
    · exact he
    · exact absurd hlt' (List.lt_asymm hlt)

/-- Where the tests are sorted, the first one whose name has occurred has the least such name: those
of a lesser name all come before it, where no name occurs twice. -/
theorem Settles.firstRepeated (hp : tests.Pairwise fun a b ↦ a.name ≤ b.name)
    (h : Settles tests (.error e)) : FirstRepeated tests e := by
  cases h with
  | stopped before after earlier t ht hn he hs =>
    subst ht
    obtain ⟨-, hp, -⟩ := List.pairwise_append.1 hp
    have hle : ∀ u ∈ after, t.name ≤ u.name := (List.pairwise_cons.1 hp).1
    constructor
    · have hb : before.filter (fun u ↦ u.name == t.name) = [earlier] := by
        rw [← hs]
        exact filter_eq_singleton hn he
      refine ⟨earlier, t, after.filter fun u ↦ u.name == t.name, ?_, rfl, rfl⟩
      simp [hb]
    · intro name hc
      rw [Bytes.ofText_lt_iff]
      rcases Std.lt_trichotomy name t.name with hlt | heq | hgt
      · have hbefore : (before.map TestCase.name).count name ≤ 1 :=
          List.nodup_iff_count_le_one.1 hn name
        have hrest : ((t :: after).map TestCase.name).count name = 0 := by
          rw [List.count_eq_zero]
          intro hm
          obtain ⟨u, hu, rfl⟩ := List.mem_map.1 hm
          rcases List.mem_cons.1 hu with rfl | hu
          · exact String.lt_irrefl _ hlt
          · exact String.not_lt.2 (hle u hu) hlt
        rw [List.map_append, List.count_append, hrest] at hc
        omega
      · exact .inl heq
      · exact .inr hgt

theorem sorted_eq_of_perm (hp : tests.Perm tests') (hn : (tests.map TestCase.name).Nodup) :
    sorted tests = sorted tests' := by
  have anti : ∀ a b, a ∈ sorted tests → b ∈ sorted tests' → a.name ≤ b.name → b.name ≤ a.name →
      a = b := by
    intro a b ha hb hab hba
    have ha : a ∈ tests := (sorted_perm tests).mem_iff.1 ha
    have hb : b ∈ tests := hp.mem_iff.2 ((sorted_perm tests').mem_iff.1 hb)
    exact List.inj_on_of_nodup_map hn ha hb (String.le_antisymm hab hba)
  have hs : (sorted tests).Perm (sorted tests') :=
    ((sorted_perm tests).trans hp).trans (sorted_perm tests').symm
  exact hs.eq_of_pairwise anti (sorted_pairwise tests) (sorted_pairwise tests')

theorem sorted_strict (hn : ((sorted tests).map TestCase.name).Nodup) :
    (sorted tests).Pairwise fun t u ↦ Bytes.ofText t.name < Bytes.ofText u.name := by
  refine ((sorted_pairwise tests).and (List.pairwise_map.1 hn)).imp fun {t u} h ↦ ?_
  rw [Bytes.ofText_lt_iff, ← String.not_le]
  exact fun hle ↦ h.2 (String.le_antisymm h.1 hle)

theorem FirstRepeated.of_sorted (h : FirstRepeated (sorted tests) e) : FirstRepeated tests e where
  sources := by
    rw [← filter_sorted]
    exact h.sources
  least name hc := h.least name (by rwa [((sorted_perm tests).map TestCase.name).count_eq])

theorem ofAnnounced_eq_error (h : ofAnnounced tests = .error e) : FirstRepeated tests e := by
  have hs := ofList_settles (sorted tests)
  have he : ofList (sorted tests) = .error e := h
  rw [he] at hs
  exact (hs.firstRepeated (sorted_pairwise tests)).of_sorted

theorem exists_ofAnnounced_eq_ok_iff :
    (∃ r, ofAnnounced tests = .ok r) ↔ (tests.map TestCase.name).Nodup := by
  rw [← ((sorted_perm tests).map TestCase.name).nodup_iff]
  exact exists_ofList_eq_ok_iff

theorem exists_ofAnnounced_eq_error_iff :
    (∃ e, ofAnnounced tests = .error e) ↔ ¬ (tests.map TestCase.name).Nodup := by
  rw [← exists_ofAnnounced_eq_ok_iff]
  cases ofAnnounced tests <;> simp

theorem ofAnnounced_tells (tests : List TestCase) :
    ((∃ r, ofAnnounced tests = .ok r) ↔ (tests.map TestCase.name).Nodup) ∧
    (∀ r, ofAnnounced tests = .ok r → ∃ entries, r.Holds entries ∧ entries.Perm tests ∧
      entries.Pairwise fun t u ↦ Bytes.ofText t.name < Bytes.ofText u.name) ∧
    (∀ e, ofAnnounced tests = .error e → FirstRepeated tests e) ∧
    ∀ tests', tests.Perm tests' →
      (∃ r, ofAnnounced tests = .ok r ∧ ofAnnounced tests' = .ok r) ∨
      ∃ e e', ofAnnounced tests = .error e ∧ ofAnnounced tests' = .error e' ∧
        e.name = e'.name := by
  refine ⟨exists_ofAnnounced_eq_ok_iff, ?_, fun e ↦ ofAnnounced_eq_error, ?_⟩
  · intro r h
    have hs : ofList (sorted tests) = .ok r := h
    obtain ⟨hr, he⟩ := ofList_eq_ok hs
    have hh := hr.holds
    rw [he] at hh
    exact ⟨sorted tests, hh, sorted_perm tests, sorted_strict hh.nodup_names⟩
  · intro tests' hp
    by_cases hn : (tests.map TestCase.name).Nodup
    · obtain ⟨r, hr⟩ := exists_ofAnnounced_eq_ok_iff.2 hn
      refine .inl ⟨r, hr, ?_⟩
      change ofList (sorted tests') = .ok r
      rw [← sorted_eq_of_perm hp hn]
      exact hr
    · have hn' : ¬ (tests'.map TestCase.name).Nodup := by
        rwa [← (hp.map TestCase.name).nodup_iff]
      obtain ⟨e, he⟩ := exists_ofAnnounced_eq_error_iff.2 hn
      obtain ⟨e', he'⟩ := exists_ofAnnounced_eq_error_iff.2 hn'
      exact .inr ⟨e, e', he, he',
        (ofAnnounced_eq_error he).name_eq (ofAnnounced_eq_error he') hp⟩

end Conformance.Registry
