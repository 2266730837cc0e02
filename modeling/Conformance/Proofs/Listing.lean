import Conformance.Proofs.Run
import Mathlib.Data.List.Infix

namespace Conformance

theorem occursIn_iff {part whole : List Char} : occursIn part whole = true ↔ part <:+: whole := by
  induction whole with
  | nil => simp [occursIn]
  | cons c rest ih => rw [occursIn, Bool.or_eq_true, ih, List.isPrefixOf_iff_prefix,
      List.infix_cons_iff]

namespace TestFilter

def Matches : TestFilter → String → Prop
  | all, _ => True
  | substring part, name => part.toList <:+: name.toList
  | exact n, name => name = n
  | pattern p, name => p.matchesIn name = true

theorem selects_iff {f : TestFilter} {name : String} : f.selects name = true ↔ f.Matches name := by
  cases f with
  | all => simp [selects, Matches]
  | substring part => exact occursIn_iff
  | exact n => simp [selects, Matches]
  | pattern p => rfl

instance (f : TestFilter) (name : String) : Decidable (f.Matches name) :=
  decidable_of_iff _ selects_iff

end TestFilter

namespace Registry

theorem reachable_of_foldlM {tests : List TestCase} {r r' : Registry} (hr : r.Reachable)
    (h : tests.foldlM register r = .ok r') : r'.Reachable := by
  induction tests generalizing r with
  | nil =>
    cases h
    exact hr
  | cons t tests ih =>
    rw [List.foldlM_cons] at h
    cases ht : r.register t with
    | error e =>
      rw [ht] at h
      cases h
    | ok r₁ =>
      rw [ht] at h
      exact ih (hr.register ht) h

theorem ofList_reachable {tests : List TestCase} {r : Registry} (h : ofList tests = .ok r) :
    r.Reachable :=
  reachable_of_foldlM .empty h

end Registry

namespace Setup

variable {u : Setup} {s : Session}

def excluded (u : Setup) : List String := (u.config.getD {}).filter.exclude ++ u.exclude

def Spares (u : Setup) (t : TestCase) : Prop :=
  ∀ part ∈ u.excluded, part ≠ "" → ¬ part.toList <:+: t.name.toList

instance (u : Setup) : DecidablePred u.Spares :=
  fun t ↦ inferInstanceAs (Decidable (∀ part ∈ u.excluded, part ≠ "" →
    ¬ part.toList <:+: t.name.toList))

def filter? (u : Setup) : Except HarnessError TestFilter :=
  match u.filter with
  | some f => .ok f
  | none => (u.config.getD {}).filter.testFilter u.readers

structure Builds (u : Setup) (s : Session) : Prop where
  registry : u.registry? = .ok s.registry
  filter : u.filter? = .ok s.filter
  timeout : u.limit? (u.config.getD {}) = .ok s.timeout
  config : s.config = u.config.getD {}
  device : s.env.device =
    u.device.getD (HostDevice.ofConfig (u.config.getD {}).device u.processors u.launchTime)
  parameters : s.env.parameters = (u.config.getD {}).parameters
  exclude : s.exclude = u.excluded.filter (· ≠ "")
  threadFault : s.threadFault = u.threadFault

theorem build_eq (u : Setup) :
    u.build = u.registry? >>= fun registry ↦ u.filter? >>= fun filter ↦
      u.limit? (u.config.getD {}) >>= fun timeout ↦
      .ok {
        config := u.config.getD {}, registry, filter, timeout
        env := ⟨u.device.getD
            (HostDevice.ofConfig (u.config.getD {}).device u.processors u.launchTime),
          (u.config.getD {}).parameters⟩
        exclude := u.excluded.filter (· ≠ "")
        threadFault := u.threadFault } := by
  unfold build filter?
  cases u.filter <;> rfl

theorem build_eq_ok_iff : u.build = .ok s ↔ u.Builds s := by
  rw [build_eq]
  simp only [bind_eq_ok_iff]
  constructor
  · rintro ⟨registry, hr, filter, hf, timeout, ht, ⟨⟩⟩
    exact ⟨hr, hf, ht, rfl, rfl, rfl, rfl, rfl⟩
  · rintro ⟨hr, hf, ht, hc, hd, hp, hx, hthread⟩
    refine ⟨_, hr, _, hf, _, ht, ?_⟩
    rw [← hd, ← hp, ← hc, ← hx, ← hthread]

theorem build_eq_error_iff {e : HarnessError} :
    u.build = .error e ↔ u.registry? = .error e ∨ (∃ r, u.registry? = .ok r) ∧
      (u.filter? = .error e ∨ (∃ f, u.filter? = .ok f) ∧
        u.limit? (u.config.getD {}) = .error e) := by
  rw [build_eq]
  simp [bind_eq_error_iff]

/-- A registry that was not given comes from registrations, too. -/
theorem registry?_reachable {r : Registry} (hg : ∀ r, u.registry = some r → r.Reachable)
    (h : u.registry? = .ok r) : r.Reachable := by
  unfold registry? at h
  cases hr : u.registry with
  | some r' =>
    rw [hr] at h
    cases h
    exact hg r hr
  | none =>
    rw [hr] at h
    cases hs : Suite.registry with
    | error e =>
      rw [hs] at h
      cases h
    | ok r' =>
      rw [hs] at h
      cases h
      exact Registry.ofList_reachable hs

end Setup

namespace Session

variable {u : Setup} {s : Session} {f : TestFilter} {r : RunReport} {j j' : Journal}

theorem isExcluded_iff (h : s.exclude = u.excluded.filter (· ≠ "")) {name : String} :
    s.isExcluded name = true ↔
      ∃ part ∈ u.excluded, part ≠ "" ∧ part.toList <:+: name.toList := by
  simp [isExcluded, h, occursIn_iff]

theorem selection_eq (h : s.exclude = u.excluded.filter (· ≠ "")) (f : TestFilter) :
    s.selection f = s.registry.entries.toList.filter fun t ↦ f.Matches t.name ∧ u.Spares t := by
  refine List.filter_congr fun t _ ↦ ?_
  rw [Bool.eq_iff_iff, Bool.and_eq_true, Bool.not_eq_true', decide_eq_true_iff,
    ← Bool.not_eq_true, isExcluded_iff h, TestFilter.selects_iff, Setup.Spares]
  simp

theorem selection_exact (h : s.exclude = u.excluded.filter (· ≠ "")) (hi : s.registry.Indexed)
    {t : TestCase} (ht : t ∈ s.registry.entries.toList) :
    s.selection (.exact t.name) = if u.Spares t then [t] else [] := by
  have hf : s.selection (.exact t.name) =
      (s.registry.entries.toList.filter fun t' ↦ t'.name == t.name).filter
        fun t' ↦ u.Spares t' := by
    rw [selection_eq h, List.filter_filter]
    refine List.filter_congr fun t' _ ↦ ?_
    rw [Bool.eq_iff_iff]
    simp [TestFilter.Matches, and_comm]
  rw [hf, filter_eq_singleton hi.nodup_names ht, List.filter_singleton]
  simp

theorem select_unknown (h : s.registry.Indexed) {name : String}
    (hn : ∀ t ∈ s.registry.entries.toList, t.name ≠ name) :
    s.select (.exact name) = .error (.testNotFound name) := by
  simp [select, candidates, h.find?_eq_none_iff.2 hn, Except.map]

theorem runAll_eq_error_iff (hv : s.env.device.validate = .ok ()) {e : HarnessError} :
    s.runAll j = .ok (.error e, j') ↔ s.list = .error e ∧ j' = j := by
  have hp : s.prepare s.filter = s.select s.filter := by simp [prepare, hv]
  cases hs : s.select s.filter with
  | error e' =>
    simp only [runAll, runFiltered, hp, hs, Run.pure_apply, list, Except.map]
    constructor
    · intro h
      cases h
      exact ⟨rfl, rfl⟩
    · rintro ⟨he, rfl⟩
      cases he
      rfl
  | ok selected =>
    rw [hs] at hp
    rw [runAll, runFiltered_of_prepare hp]
    cases s.runTests selected j <;> simp [list, hs, Except.map]

theorem list_of_runAll (h : s.runAll j = .ok (.ok r, j')) :
    s.list = .ok (r.outcomes.map Outcome.descriptor) := by
  obtain ⟨selected, outcomes, j₁, hp, hruns, rfl, -⟩ := runFiltered_eq_ok_iff.1 h
  have hd := hruns.descriptors
  simp [list, (prepare_eq_ok_iff.1 hp).2, Except.map, RunReport.ofOutcomes, hd]

def sparing : Setup where
  config := some { filter := { exclude := ["e", ""] } }
  registry := some (.pair steady falling)
  filter := some (.exact "falling")
  exclude := ["late"]

end Session

end Conformance
