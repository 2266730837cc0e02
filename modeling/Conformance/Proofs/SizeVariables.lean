import Conformance.Proofs.LaunchRanges
import Conformance.Proofs.Layers
import Conformance.Proofs.Listing
import Conformance.Proofs.Overrides

namespace Conformance

namespace Environment

variable {env env' : Environment} {names : List String} {key k : String}

def SameBut (names : List String) (env env' : Environment) : Prop :=
  env.filter (fun e ↦ e.1 ∉ names) = env'.filter fun e ↦ e.1 ∉ names

theorem lookup_filter (hk : k ∉ names) (es : List (String × String)) :
    (es.filter fun e ↦ e.1 ∉ names).lookup k = es.lookup k := by
  induction es with
  | nil => rfl
  | cons e es ih =>
    by_cases he : e.1 ∈ names
    · have hne : (k == e.1) = false := by
        simp only [beq_eq_false_iff_ne]
        intro h
        exact hk (h ▸ he)
      rw [List.filter_cons_of_neg (by simpa using he), List.lookup_cons, hne, ih]
    · rw [List.filter_cons_of_pos (by simpa using he), List.lookup_cons, List.lookup_cons, ih]

theorem SameBut.setting? (h : env.SameBut names env') (hk : variableName key ∉ names) :
    env'.setting? key = env.setting? key := by
  have hg : env'.get? (variableName key) = env.get? (variableName key) := by
    unfold Dictionary.get?
    rw [← lookup_filter hk env, ← lookup_filter hk env', h]
  rw [Environment.setting?, hg]
  rfl

theorem SameBut.parameter? (h : env.SameBut names env') (hk : parameterText ++ k ∉ names) :
    env'.parameter? k = env.parameter? k := by
  unfold Environment.parameter?
  rw [← lookup_filter hk env.reverse, ← lookup_filter hk env'.reverse, List.filter_reverse,
    List.filter_reverse, h]

theorem changed_congr {cs : List (String × Change)}
    (h : ∀ e ∈ cs, env'.setting? e.1 = env.setting? e.1) (c : Config) :
    env'.changed cs c = env.changed cs c := by
  induction cs generalizing c with
  | nil => rfl
  | cons e cs ih =>
    obtain ⟨he, hcs⟩ := List.forall_mem_cons.1 h
    simp only [changed, he, ih hcs]

/-- The names say nothing about the profile or a single setting. -/
def Parametric (names : List String) : Prop :=
  ∀ key ∈ "PROFILE" :: changes.map Prod.fst, variableName key ∉ names

instance : DecidablePred Parametric :=
  fun names ↦ inferInstanceAs (Decidable (∀ key ∈ _, variableName key ∉ names))

theorem SameBut.applyTo_snd (h : env.SameBut names env') (hn : Parametric names) (c : Config) :
    (env'.applyTo c).2 = (env.applyTo c).2 := by
  change (env'.changed changes c).2 = (env.changed changes c).2
  rw [changed_congr]
  intro e he
  apply h.setting?
  exact hn e.1 (List.mem_cons_of_mem _ (List.mem_map_of_mem he))

end Environment

namespace Config

variable {s : ConfigSource} {files : FileTree} {env env' : Environment} {names : List String}

/-- Variables that are about parameters do not keep settings from being loaded, and change no other
parameters than their own. -/
theorem load_of_sameBut {c : Config} {ns : List Notice} (hl : load s files env = .ok (c, ns))
    (h : env.SameBut names env') (hn : Environment.Parametric names) :
    ∃ c', load s files env' = .ok (c', ns) ∧
      ∀ k, Environment.parameterText ++ k ∉ names →
        c'.parameters.get? k = c.parameters.get? k := by
  have hp : s.profile? env' = s.profile? env := by
    unfold ConfigSource.profile? Environment.profile?
    rw [h.setting? (hn _ List.mem_cons_self)]
  rw [load_eq_map] at hl ⊢
  obtain ⟨c₀, hc₀, henv⟩ := map_eq_ok_iff.1 hl
  rw [hp, hc₀]
  cases he : s.useEnvironment with
  | false =>
    rw [he, if_neg Bool.false_ne_true] at henv
    exact ⟨c, congrArg Except.ok henv, fun _ _ ↦ rfl⟩
  | true =>
    rw [he, if_pos rfl] at henv
    refine ⟨(env'.applyTo c₀).1, congrArg Except.ok (Prod.ext rfl ?_), fun k hk ↦ ?_⟩
    · change (env'.applyTo c₀).2 = ns
      rw [h.applyTo_snd hn, henv]
    · have hc : (env.applyTo c₀).1 = c := congrArg Prod.fst henv
      rw [← hc, Environment.parameters_applyTo, Environment.parameters_applyTo, h.parameter? hk]

end Config

namespace Setup

theorem parameters_of_build {u : Setup} {s : Session} {c : Config} (hu : u.config = some c)
    (hb : u.build = .ok s) : s.env.parameters = c.parameters := by
  rw [(build_eq_ok_iff.1 hb).parameters, hu, Option.getD_some]

end Setup

namespace Suite

def dataParallel : List TestCase := [Copy.test, Reduction.test]

variable {env env' : TestEnv} {t : TestCase}

theorem launchesOver (ht : t ∈ dataParallel) (env : TestEnv) :
    LaunchesOver env t (rangeFor env) := by
  simp only [dataParallel, List.mem_cons, List.not_mem_nil, or_false] at ht
  obtain rfl | rfl := ht
  · exact Copy.launchesOver env
  · exact Reduction.launchesOver env

theorem body_congr (ht : t ∈ dataParallel) (hd : env'.device = env.device)
    (hg : env'.param "global_size" = env.param "global_size")
    (hl : env'.param "local_size" = env.param "local_size") : t.body env' = t.body env := by
  obtain ⟨d, ps⟩ := env
  obtain ⟨d', ps'⟩ := env'
  obtain rfl : d' = d := hd
  have hr : launchRange ⟨d', ps'⟩ = launchRange ⟨d', ps⟩ := by
    simp only [launchRange, TestEnv.paramOr, hg, hl]
  simp only [dataParallel, List.mem_cons, List.not_mem_nil, or_false] at ht
  obtain rfl | rfl := ht
  · change (launchRange _ >>= _) = (launchRange _ >>= _)
    rw [hr]
    rfl
  · change (launchRange _ >>= _) = (launchRange _ >>= _)
    rw [hr]
    rfl

theorem asked_eq {key raw : String} {n default : Nat} (hp : env.param key = some raw)
    (hr : Numeral.Writes wordLimit raw.toList n) : env.asked key default = n := by
  have hn : (read? raw : Option Nat) = some n := Environment.read?_eq_some_iff.2 hr
  rw [TestEnv.asked, hp, Option.bind_some, hn]
  rfl

/-- The names of the variables that would ask for the sizes if names of parameters were written in
capital letters, as those of settings are. -/
def capitals : List String :=
  [Environment.parameterText ++ "GLOBAL_SIZE", Environment.parameterText ++ "LOCAL_SIZE"]

theorem capitals_parametric : Environment.Parametric capitals := by
  decide

/-- A size that a variable asks for in small letters is the one that the data-parallel tests launch
with, whatever the file and the profile say. The variables in capital letters leave these tests as
they are. -/
theorem sizes_follow_variables {src : ConfigSource} {files : FileTree} {env : Environment}
    {c : Config} {ns : List Notice} {u : Setup} {s : Session}
    (hl : Config.load src files env = .ok (c, ns)) (he : src.useEnvironment = true)
    (hu : u.config = some c) (hb : u.build = .ok s) :
    (∀ raw n, env.parameter? "global_size" = some raw →
      Numeral.Writes wordLimit raw.toList n → ∀ t ∈ dataParallel,
        LaunchesOver s.env t (rangeOf s.env.device.maxWorkGroupSize n
          (s.env.asked "local_size" defaultLocalSize))) ∧
    (∀ raw n, env.parameter? "local_size" = some raw →
      Numeral.Writes wordLimit raw.toList n → ∀ t ∈ dataParallel,
        LaunchesOver s.env t (rangeOf s.env.device.maxWorkGroupSize
          (s.env.asked "global_size" defaultGlobalSize) n)) ∧
    ∀ env', env.SameBut capitals env' → ∃ c', Config.load src files env' = .ok (c', ns) ∧
      ∀ t ∈ dataParallel, t.body ⟨s.env.device, c'.parameters⟩ = t.body s.env := by
  have hp : s.env.parameters = c.parameters := Setup.parameters_of_build hu hb
  have hvariable : ∀ k raw, env.parameter? k = some raw → s.env.param k = some raw := by
    intro k raw hk
    obtain ⟨c₀, -, hc⟩ := map_eq_ok_iff.1 ((Config.load_eq_map src files env).symm.trans hl)
    rw [if_pos he] at hc
    have hget := @Environment.parameters_applyTo env c₀ k
    rw [hc, hk] at hget
    rw [TestEnv.param, hp, hget]
    rfl
  refine ⟨?_, ?_, ?_⟩
  · intro raw n hv hn t ht
    have ha : s.env.asked "global_size" defaultGlobalSize = n :=
      asked_eq (hvariable "global_size" raw hv) hn
    have hr := launchesOver ht s.env
    rwa [rangeFor, ha] at hr
  · intro raw n hv hn t ht
    have ha : s.env.asked "local_size" defaultLocalSize = n :=
      asked_eq (hvariable "local_size" raw hv) hn
    have hr := launchesOver ht s.env
    rwa [rangeFor, ha] at hr
  · intro env' hsame
    obtain ⟨c', hl', hsizes⟩ := Config.load_of_sameBut hl hsame capitals_parametric
    refine ⟨c', hl', fun t ht ↦ body_congr ht rfl ?_ ?_⟩
    · rw [TestEnv.param, TestEnv.param, hp]
      exact hsizes "global_size" (by decide)
    · rw [TestEnv.param, TestEnv.param, hp]
      exact hsizes "local_size" (by decide)

def sized : FileTree := CommandLine.lone "[parameters]\nglobal_size='4096'"

theorem sized_readFile : Config.readFile sized "ci" =
    .ok (.obj [("parameters", .obj [("global_size", .str "4096")])]) := by
  simp only [Config.readFile, sized, CommandLine.readText_lone]
  cbv

def sizing (name : String) : Environment := [(Environment.parameterText ++ name, "64")]

def sizedBy (name : String) : Config where
  parameters := Dictionary.insert name "64" [("global_size", "4096")]

theorem load_sized {name : String} (hn : name = "global_size" ∨ name = "GLOBAL_SIZE") :
    Config.load { file := some "ci" } sized (sizing name) = .ok (sizedBy name, []) := by
  have hf : ConfigSource.file? { file := some "ci" } sized = some "ci" := rfl
  rw [Config.load_eq, hf]
  simp only [Config.loadFile, sized_readFile]
  obtain rfl | rfl := hn <;> rfl

def sizedSession (name : String) : Session where
  config := sizedBy name
  registry := .empty
  env := ⟨HostDevice.ofConfig {}, (sizedBy name).parameters⟩
  filter := .all
  exclude := []
  timeout := none
  threadFault := fun _ ↦ none

theorem build_sized (name : String) :
    Setup.build { config := some (sizedBy name), registry := some .empty } =
      .ok (sizedSession name) :=
  rfl

theorem sizes_follow_variables_in_small_letters :
    Config.load { file := some "ci" } sized (sizing "global_size") =
      .ok (sizedBy "global_size", []) ∧
    Setup.build { config := some (sizedBy "global_size"), registry := some .empty } =
      .ok (sizedSession "global_size") ∧
    ∀ t ∈ dataParallel, LaunchesOver (sizedSession "global_size").env t (.ok ⟨64, 64⟩) := by
  have hl : Config.load { file := some "ci" } sized (sizing "global_size") =
      .ok (sizedBy "global_size", []) :=
    load_sized (.inl rfl)
  have hv : (sizing "global_size").parameter? "global_size" = some "64" := by
    decide
  have hw : Numeral.Writes wordLimit "64".toList 64 := Environment.read?_eq_some_iff.1 rfl
  have hr : rangeOf (sizedSession "global_size").env.device.maxWorkGroupSize 64
      ((sizedSession "global_size").env.asked "local_size" defaultLocalSize) = .ok ⟨64, 64⟩ := by
    cbv
  refine ⟨hl, build_sized _, fun t ht ↦ ?_⟩
  have hover := (sizes_follow_variables hl rfl rfl (build_sized _)).1 "64" 64 hv hw t ht
  rwa [hr] at hover

/-- The variable in capital letters asks for 64 items, and the tests launch the 4096 of the file. -/
theorem sizes_ignore_capitals :
    (sizing "GLOBAL_SIZE").get? "CTS_HARNESS_VAR_GLOBAL_SIZE" = some "64" ∧
    Config.load { file := some "ci" } sized (sizing "GLOBAL_SIZE") =
      .ok (sizedBy "GLOBAL_SIZE", []) ∧
    Setup.build { config := some (sizedBy "GLOBAL_SIZE"), registry := some .empty } =
      .ok (sizedSession "GLOBAL_SIZE") ∧
    ∀ t ∈ dataParallel, LaunchesOver (sizedSession "GLOBAL_SIZE").env t (.ok ⟨4096, 64⟩) ∧
      ¬ LaunchesOver (sizedSession "GLOBAL_SIZE").env t (rangeOf 256 64 defaultLocalSize) := by
  refine ⟨by decide, load_sized (.inr rfl), build_sized _, fun t ht ↦ ?_⟩
  have hr : rangeFor (sizedSession "GLOBAL_SIZE").env = .ok ⟨4096, 64⟩ := by
    cbv
  have hover := launchesOver ht (sizedSession "GLOBAL_SIZE").env
  rw [hr] at hover
  refine ⟨hover, fun h ↦ ?_⟩
  exact absurd (hover.unique (by decide) h) (by decide)

end Suite

end Conformance
