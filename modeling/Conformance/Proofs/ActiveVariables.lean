import Conformance.Proofs.Layers
import Conformance.Proofs.Overrides

namespace Conformance.Environment

open Config (Leaf)

variable {α : Type} {env : Environment} {l : Leaf α} {key name raw : String} {a : α}

/-- A variable that decides something where settings are loaded, with its value. -/
inductive Applied (env : Environment) : String → String → Prop
  | profile {raw : String} (h : env.profile? = some raw) : Applied env (variableName "PROFILE") raw
  | setting {α : Type} {l : Leaf α} {key raw : String} {a : α} (hv : variableOf? l = some key)
    (hs : env.setting? key = some raw) (ha : ofText? l raw = some a) :
    Applied env (variableName key) raw
  | parameter {k raw : String} (h : env.parameter? k = some raw) :
    Applied env (parameterText ++ k) raw

/-- A variable with a text that is no value of its setting. -/
inductive Refused (env : Environment) : String → String → Prop
  | setting {α : Type} {l : Leaf α} {key raw : String} (hv : variableOf? l = some key)
    (hs : env.setting? key = some raw) (ha : ofText? l raw = none) :
    Refused env (variableName key) raw

/-- Settings that take what the variables say. A text that is refused leaves its setting alone, and
is complained about. -/
structure Takes (env : Environment) (c c' : Config) (notices : List Notice) : Prop where
  applied : ∀ {α : Type} (l : Leaf α) key raw a, variableOf? l = some key →
    env.setting? key = some raw → ofText? l raw = some a → l.get c' = a
  refused : ∀ {α : Type} (l : Leaf α) key raw, variableOf? l = some key →
    env.setting? key = some raw → ofText? l raw = none →
    l.get c' = l.get c ∧ complaint key raw ∈ notices
  parameter : ∀ k raw, env.parameter? k = some raw → c'.parameters.get? k = some raw

def listed : List String := "PROFILE" :: changes.map Prod.fst

theorem mem_active_iff : (name, raw) ∈ env.active ↔
    ∃ key ∈ listed, variableName key = name ∧ env.setting? key = some raw := by
  simp only [active, List.mem_filterMap, Option.map_eq_some_iff, Prod.mk.injEq]
  constructor
  · rintro ⟨key, hk, _, hs, hn, rfl⟩
    exact ⟨key, hk, hn, hs⟩
  · rintro ⟨key, hk, hn, hs⟩
    exact ⟨key, hk, raw, hs, hn, rfl⟩

theorem active_map_fst_sublist (env : Environment) :
    (env.active.map Prod.fst).Sublist (listed.map variableName) := by
  have h (keys : List String) : ((keys.filterMap fun key ↦
      (env.setting? key).map fun raw ↦ (variableName key, raw)).map Prod.fst).Sublist
      (keys.map variableName) := by
    induction keys with
    | nil => exact .slnil
    | cons key keys ih =>
      rw [List.filterMap_cons]
      cases env.setting? key with
      | none => exact ih.cons _
      | some raw => exact ih.cons_cons _
  exact h listed

theorem variableName_ne_parameter (hk : key ∈ listed) (k : String) :
    variableName key ≠ parameterText ++ k := by
  have h : ∀ key ∈ listed, behind? parameterText (variableName key) = none := by decide
  intro he
  have hb := h key hk
  rw [behind?_eq_some_iff.2 he] at hb
  cases hb

theorem variableName_injective : Function.Injective variableName := fun _ _ ↦
  (String.append_right_inj _).1

theorem exists_variableOf? (hk : key ∈ changes.map Prod.fst) :
    ∃ (α : Type) (l : Leaf α), variableOf? l = some key := by
  simp only [changes, List.map_cons, List.map_nil, List.mem_cons, List.not_mem_nil, or_false] at hk
  obtain rfl | rfl | rfl | rfl | rfl | rfl | rfl | rfl | rfl := hk
  · exact ⟨_, .pattern, rfl⟩
  · exact ⟨_, .exclude, rfl⟩
  · exact ⟨_, .timeout, rfl⟩
  · exact ⟨_, .threads, rfl⟩
  · exact ⟨_, .subGroupSize, rfl⟩
  · exact ⟨_, .fp64, rfl⟩
  · exact ⟨_, .atomic64, rfl⟩
  · exact ⟨_, .showNotes, rfl⟩
  · exact ⟨_, .verbose, rfl⟩

theorem variableOf?_inj {β : Type} {m : Leaf β} (hl : variableOf? l = some key)
    (hm : variableOf? m = some key) : α = β ∧ HEq l m := by
  cases l <;> cases hl <;> cases m <;> first | exact ⟨rfl, .rfl⟩ | exact absurd hm (by decide)

theorem setting_mem_listed (h : variableOf? l = some key) : key ∈ listed :=
  List.mem_cons_of_mem _ (variableOf?_mem l h)

theorem checked_of_ofText?_eq_none (hv : variableOf? l = some key) (ha : ofText? l raw = none) :
    Checked l key := by
  cases l <;> cases hv <;> first | constructor | cases ha

theorem Checked.about_subset (h : Checked l key) (c : Config) :
    env.about l key ⊆ (env.applyTo c).2 := by
  rw [applyTo_snd]
  cases h <;> intro n hn <;> simp [hn]

theorem Refused.not_applied (h : env.Refused name raw) : ¬ env.Applied name raw := by
  cases h with
  | @setting α l key _ hv hs ha =>
    have hk := setting_mem_listed hv
    generalize hn : variableName key = name
    intro happlied
    cases happlied with
    | profile hp =>
      obtain rfl := variableName_injective hn
      exact absurd (variableOf?_mem l hv) (by decide)
    | @setting β m key' _ _ hv' hs' ha' =>
      obtain rfl := variableName_injective hn
      obtain ⟨rfl, hlm⟩ := variableOf?_inj hv hv'
      obtain rfl := eq_of_heq hlm
      cases ha.symm.trans ha'
    | parameter hp => exact variableName_ne_parameter hk _ hn

theorem mem_active_iff_applied_or_refused : (name, raw) ∈ env.active ↔
    (env.Applied name raw ∧ ∀ k, name ≠ parameterText ++ k) ∨ env.Refused name raw := by
  rw [mem_active_iff]
  constructor
  · rintro ⟨key, hk, rfl, hs⟩
    have hn := variableName_ne_parameter hk
    rcases List.mem_cons.1 hk with rfl | hk
    · exact .inl ⟨.profile hs, hn⟩
    · obtain ⟨α, l, hv⟩ := exists_variableOf? hk
      cases ha : ofText? l raw with
      | some a => exact .inl ⟨.setting hv hs ha, hn⟩
      | none => exact .inr (.setting hv hs ha)
  · rintro (⟨happlied, hn⟩ | hrefused)
    · cases happlied with
      | profile h => exact ⟨"PROFILE", List.mem_cons_self, rfl, h⟩
      | setting hv hs _ => exact ⟨_, setting_mem_listed hv, rfl, hs⟩
      | parameter _ => exact absurd rfl (hn _)
    · obtain ⟨hv, hs, -⟩ := hrefused
      exact ⟨_, setting_mem_listed hv, rfl, hs⟩

theorem takes_applyTo (env : Environment) (c : Config) :
    env.Takes c (env.applyTo c).1 (env.applyTo c).2 where
  applied l key raw a hv hs ha := by
    rw [get_applyTo_of_text hv hs, ha]
    rfl
  refused l key raw hv hs ha := by
    refine ⟨?_, (checked_of_ofText?_eq_none hv ha).about_subset c ?_⟩
    · rw [get_applyTo_of_text hv hs, ha]
      rfl
    · simp [about, hs, ha]
  parameter k raw h := by
    rw [parameters_applyTo, h]
    rfl

/-- The list of active variables holds, in a fixed order, what is applied where settings are loaded
with no profile asked for, except parameters; and it holds what is refused, which changes nothing.
-/
theorem active_tells_applied (env : Environment) :
    (∀ name raw, (name, raw) ∈ env.active ↔
      (env.Applied name raw ∧ ∀ k, name ≠ parameterText ++ k) ∨ env.Refused name raw) ∧
    (∀ name raw, env.Refused name raw → ¬ env.Applied name raw) ∧
    (env.active.map Prod.fst).Sublist (listed.map variableName) ∧
    (∀ s files, s.profile = none → s.useEnvironment = true →
      Config.load s files env = (Config.settled s files env.profile?).map env.applyTo) ∧
    ∀ c, env.Takes c (env.applyTo c).1 (env.applyTo c).2 := by
  refine ⟨fun _ _ ↦ mem_active_iff_applied_or_refused, fun _ _ h ↦ h.not_applied,
    active_map_fst_sublist env, fun s files hp he ↦ ?_, takes_applyTo env⟩
  have hn : s.profile? env = env.profile? := by
    rw [ConfigSource.profile?, hp, he]
    rfl
  rw [Config.load_eq_map, hn, he]
  rfl

def hasty : Environment := [("CTS_HARNESS_TIMEOUT", "soon"), ("CTS_HARNESS_VAR_SEED", "7")]

theorem hasty_refused : hasty.Refused "CTS_HARNESS_TIMEOUT" "soon" := by
  have hv : variableOf? Leaf.timeout = some "TIMEOUT" := rfl
  exact .setting hv rfl rfl

theorem hasty_applied : hasty.Applied "CTS_HARNESS_VAR_SEED" "7" :=
  .parameter (k := "SEED") rfl

theorem active_tells_applied_hasty :
    ∃ c notices, Config.load {} {} hasty = .ok (c, notices) ∧ c.run.timeout = none ∧
      complaint "TIMEOUT" "soon" ∈ notices ∧ c.parameters.get? "SEED" = some "7" ∧
      ("CTS_HARNESS_TIMEOUT", "soon") ∈ hasty.active := by
  obtain ⟨hactive, -, -, hload, htakes⟩ := active_tells_applied hasty
  have ht := htakes {}
  obtain ⟨hkept, hnotice⟩ := ht.refused .timeout "TIMEOUT" "soon" rfl rfl rfl
  refine ⟨_, _, hload {} {} rfl rfl, hkept, hnotice, ht.parameter "SEED" "7" rfl, ?_⟩
  exact (hactive _ _).2 (.inr hasty_refused)

/-- The refused text is listed although it decides nothing, and the other variable is not although
it does. -/
theorem active_hasty :
    ("CTS_HARNESS_TIMEOUT", "soon") ∈ hasty.active ∧
      ¬ hasty.Applied "CTS_HARNESS_TIMEOUT" "soon" ∧
    hasty.Applied "CTS_HARNESS_VAR_SEED" "7" ∧
      ("CTS_HARNESS_VAR_SEED", "7") ∉ hasty.active := by
  have ha : hasty.active = [("CTS_HARNESS_TIMEOUT", "soon")] := rfl
  refine ⟨?_, hasty_refused.not_applied, hasty_applied, ?_⟩
  · simp [ha]
  · simp [ha]

end Conformance.Environment
