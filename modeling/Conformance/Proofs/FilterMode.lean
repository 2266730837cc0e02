import Conformance.Proofs.Layers
import Conformance.Proofs.Listing

namespace Conformance

theorem FilterConfig.testFilter_of_text {f : FilterConfig} {text : String} {readers : Readers}
    (hp : f.pattern = some text) (ht : text ≠ "") :
    f.testFilter readers =
      if f.exact then .ok (.exact text)
      else if f.regex then
        ((Pattern.ofText? text readers.patternLimit).map TestFilter.pattern).elim
          (.error (.invalidPattern (readers.patternComplaint text))) .ok
      else .ok (.substring text) := by
  unfold testFilter
  rw [hp]
  split
  · next h => cases h
  · next h => exact absurd (Option.some.inj h) ht
  · next text' _ h =>
    obtain rfl := Option.some.inj h
    cases Pattern.ofText? text readers.patternLimit <;> rfl

namespace Session

variable {s : Session} {f : TestFilter}

theorem select_of_not_exact (h : s.registry.Indexed) (hf : ∀ name, f ≠ .exact name) :
    s.select f = .ok (s.selection f) :=
  (select_eq_ok_iff h).2 ⟨rfl, fun name he ↦ absurd he (hf name)⟩

theorem select_known (h : s.registry.Indexed) {name : String}
    (hn : ∃ t ∈ s.registry.entries.toList, t.name = name) :
    s.select (.exact name) = .ok (s.selection (.exact name)) := by
  refine (select_eq_ok_iff h).2 ⟨rfl, ?_⟩
  rintro _ ⟨⟩
  exact hn

end Session

namespace Setup

variable {u : Setup} {f : TestFilter}

/-- What keeps a session from being set up whatever it is to run. -/
def Hampered (u : Setup) (e : HarnessError) : Prop :=
  u.registry? = .error e ∨ (∃ r, u.registry? = .ok r) ∧ u.limit? (u.config.getD {}) = .error e

/-- A session is set up unless something other than its filter hampers it, and this is then its
answer to what it would run. -/
def Answers (u : Setup) (answer : Registry → Except HarnessError (List TestCase)) : Prop :=
  (∀ e, u.build = .error e ↔ u.Hampered e) ∧
  ∀ s, u.build = .ok s → u.registry? = .ok s.registry ∧ s.select s.filter = answer s.registry

def chosen (u : Setup) (asked : String → Prop) [DecidablePred asked] (r : Registry) :
    List TestCase :=
  r.entries.toList.filter fun t ↦ asked t.name ∧ u.Spares t

theorem chosen_congr {asked asked' : String → Prop} [DecidablePred asked] [DecidablePred asked']
    (h : ∀ name, asked name ↔ asked' name) (r : Registry) : u.chosen asked r = u.chosen asked' r :=
  List.filter_congr fun t _ ↦ decide_eq_decide.2 (and_congr_left' (h t.name))

section Filter

variable (hr : ∀ r, u.registry = some r → r.Reachable)
include hr

theorem answers_of_filter {answer : Registry → Except HarnessError (List TestCase)}
    (hf : u.filter? = .ok f)
    (ha : ∀ s : Session, s.registry.Indexed → s.exclude = u.excluded.filter (· ≠ "") →
      s.select f = answer s.registry) : u.Answers answer := by
  constructor
  · intro e
    rw [build_eq_error_iff, hf, Hampered]
    simp
  · intro s hb
    obtain ⟨hreg, hfilter, -, -, -, -, hx, -⟩ := build_eq_ok_iff.1 hb
    obtain rfl := Except.ok.inj (hf.symm.trans hfilter)
    exact ⟨hreg, ha s (registry?_reachable hr hreg).indexed hx⟩

theorem answers_of_matching (hf : u.filter? = .ok f)
    (hx : ∀ name, f ≠ .exact name) {asked : String → Prop} [DecidablePred asked]
    (ha : ∀ name, f.Matches name ↔ asked name) :
    u.Answers fun r ↦ .ok (u.chosen asked r) := by
  refine answers_of_filter hr hf fun s hi he ↦ ?_
  rw [Session.select_of_not_exact hi hx, Session.selection_eq he]
  exact congrArg Except.ok (chosen_congr ha s.registry)

theorem answers_of_name {name : String} (hf : u.filter? = .ok (.exact name)) :
    u.Answers fun r ↦ if ∃ t ∈ r.entries.toList, t.name = name then .ok (u.chosen (· = name) r)
      else .error (.testNotFound name) := by
  refine answers_of_filter hr hf fun s hi he ↦ ?_
  split
  · next hk =>
    rw [Session.select_known hi hk, Session.selection_eq he]
    have hm : ∀ n, (TestFilter.exact name).Matches n ↔ n = name := fun _ ↦ Iff.rfl
    exact congrArg Except.ok (chosen_congr hm s.registry)
  · next hk => exact Session.select_unknown hi fun t ht hname ↦ hk ⟨t, ht, hname⟩

/-- A text is taken for a name, for a pattern or for part of a name, as a filter with these two bits
takes it. A name has to be registered, and a pattern has to be one. -/
structure Takes (u : Setup) (text : String) (exact regex : Bool) : Prop where
  part : exact = false → regex = false →
    u.Answers fun r ↦ .ok (u.chosen (fun name ↦ text.toList <:+: name.toList) r)
  name : exact = true →
    u.Answers fun r ↦ if ∃ t ∈ r.entries.toList, t.name = text then .ok (u.chosen (· = text) r)
      else .error (.testNotFound text)
  pattern : exact = false → regex = true → ∀ p,
    Pattern.ofText? text u.readers.patternLimit = some p →
    u.Answers fun r ↦ .ok (u.chosen (fun name ↦ p.matchesIn name = true) r)
  malformed : exact = false → regex = true →
    Pattern.ofText? text u.readers.patternLimit = none →
    u.build = u.registry?.bind fun _ ↦
      .error (.invalidPattern (u.readers.patternComplaint text))

theorem takes_of_pattern {text : String} (hn : u.filter = none)
    (hp : (u.config.getD {}).filter.pattern = some text) (ht : text ≠ "") :
    u.Takes text (u.config.getD {}).filter.exact (u.config.getD {}).filter.regex := by
  have hfilter : u.filter? = (u.config.getD {}).filter.testFilter u.readers := by
    rw [filter?, hn]
  have hf := hfilter.trans (FilterConfig.testFilter_of_text hp ht)
  refine ⟨fun hx hg ↦ ?part, fun hx ↦ ?name, fun hx hg p hp ↦ ?pattern, fun hx hg hp ↦ ?malformed⟩
  case part =>
    simp only [hx, hg, Bool.false_eq_true, if_false] at hf
    exact answers_of_matching hr hf nofun fun _ ↦ Iff.rfl
  case name =>
    simp only [hx, if_true] at hf
    exact answers_of_name hr hf
  case pattern =>
    simp only [hx, hg, hp, Bool.false_eq_true, if_false, if_true] at hf
    exact answers_of_matching hr hf nofun fun _ ↦ Iff.rfl
  case malformed =>
    simp only [hx, hg, hp, Bool.false_eq_true, if_false, if_true] at hf
    rw [build_eq, hf]
    cases u.registry? <;> rfl

end Filter

end Setup

namespace CommandLine

variable {c : CommandLine} {h : Host} {config : Config} {ns : List Notice} {text : String}

def base (c : CommandLine) (h : Host) : Except HarnessError Config :=
  match c.config, h.directoryFault with
  | none, some e => .error (.io e)
  | _, _ => Config.settled (c.source h) h.files ((c.source h).profile? h.env)

theorem settings_eq (c : CommandLine) (h : Host) :
    c.settings h = (c.base h).map fun below ↦
      (c.applyTo (h.env.applyTo below).1, (h.env.applyTo below).2) := by
  have hl : c.loadConfig h =
      (Config.settled (c.source h) h.files ((c.source h).profile? h.env)).map fun below ↦
        (c.applyTo (h.env.applyTo below).1, (h.env.applyTo below).2) := by
    rw [loadConfig, Config.load_eq_map]
    cases Config.settled (c.source h) h.files ((c.source h).profile? h.env) <;> rfl
  unfold settings base
  cases c.config with
  | some path => exact hl
  | none =>
    cases h.directoryFault with
    | some e => rfl
    | none => exact hl

theorem filter_of_settings (hl : c.settings h = .ok (config, ns))
    (hs : c.filter.or (h.env.setting? "FILTER") = some text) (he : c.exact = false)
    (hr : c.regex = false) :
    ∃ below, c.base h = .ok below ∧ config.filter.pattern = some text ∧
      config.filter.exact = below.filter.exact ∧ config.filter.regex = below.filter.regex := by
  rw [settings_eq] at hl
  obtain ⟨below, hb, hc⟩ := map_eq_ok_iff.1 hl
  cases hc
  refine ⟨below, hb, (c.get_applyTo .pattern _).trans ?_, (c.get_applyTo .exact _).trans ?_,
    (c.get_applyTo .regex _).trans ?_⟩
  · rw [Environment.get_applyTo]
    cases hf : c.filter with
    | some part =>
      rw [hf] at hs
      simpa [leaf?, extend, hf] using hs
    | none =>
      rw [hf] at hs
      have hv : h.env.setting? "FILTER" = some text := hs
      simp [leaf?, extend, hf, Environment.leaf?, Environment.variableOf?, Environment.ofText?, hv]
  · rw [Environment.get_applyTo]
    simp [leaf?, he, hr, extend, Environment.leaf?, Environment.variableOf?, Config.Leaf.get]
  · rw [Environment.get_applyTo]
    simp [leaf?, he, hr, extend, Environment.leaf?, Environment.variableOf?, Config.Leaf.get]

/-- A text that is asked for without a flag keeps no settings from being loaded, and is taken as the
file and its profile settle. Where they leave both bits unset the tests are picked that have the
text in their names, and it keeps nothing from being set up or picked. Otherwise it may be the name
of no test, or no pattern. -/
theorem text_follows_settled_mode (ht : text ≠ "")
    (hs : c.filter.or (h.env.setting? "FILTER") = some text) (he : c.exact = false)
    (hr : c.regex = false) :
    (∀ e, c.settings h = .error e ↔ c.base h = .error e) ∧
    ∀ config ns, c.settings h = .ok (config, ns) → ∃ below, c.base h = .ok below ∧
      ∀ u : Setup, u.config = some config → u.filter = none →
        (∀ r, u.registry = some r → r.Reachable) →
        u.Takes text below.filter.exact below.filter.regex := by
  constructor
  · intro e
    rw [settings_eq]
    cases c.base h <;> simp [Except.map]
  · intro config ns hl
    obtain ⟨below, hb, hpattern, hexact, hregex⟩ := filter_of_settings hl hs he hr
    refine ⟨below, hb, fun u hu hn hreach ↦ ?_⟩
    obtain rfl : u.config.getD {} = config := by rw [hu, Option.getD_some]
    rw [← hexact, ← hregex]
    exact Setup.takes_of_pattern hreach hn hpattern ht

def picking (text : String) : CommandLine where
  filter := some text
  config := some "ci"

def narrowed (line : String) : Host where
  files := lone line
  env := [("CTS_HARNESS_FILTER", "sum")]

theorem picking_applyTo (text : String) (config : Config) :
    (picking text).applyTo config = { config with filter.pattern := some text } := by
  simp [picking, applyTo]

def only (f : FilterConfig) : Config where
  filter := f

theorem narrowed_settings {line : String} {file : Json} {f : FilterConfig}
    (hf : Config.readFile (lone line) "ci" = .ok file) (hc : Config.ofJson file = .ok (only f))
    (text : String) : (picking text).base (narrowed line) = .ok (only f) ∧
      (picking text).settings (narrowed line) =
        .ok (only { f with pattern := some text }, []) := by
  have hb : (picking text).base (narrowed line) = .ok (only f) := by
    change (Config.loadFile (lone line) "ci" >>= fun p ↦ .ok p.1) = _
    rw [Config.loadFile_of_readFile hf, hc]
    rfl
  refine ⟨hb, ?_⟩
  rw [settings_eq, hb, Except.map, picking_applyTo]
  rfl

def settingUp (f : FilterConfig) : Setup where
  config := some (only f)
  registry := some (.pair Suite.Copy.test Suite.Reduction.test)

theorem settingUp_reachable (f : FilterConfig) :
    ∀ r, (settingUp f).registry = some r → r.Reachable := by
  rintro r ⟨⟩
  exact Registry.pair_reachable (by decide)

theorem excluding_readFile : Config.readFile (lone "filter.exclude=['slow']") "ci" =
    .ok (.obj [("filter", .obj [("exclude", .arr [.str "slow"])])]) := by
  simp only [Config.readFile, readText_lone]
  cbv

theorem text_follows_settled_mode_part : ∃ f s,
    (picking "kernel").settings (narrowed "filter.exclude=['slow']") = .ok (only f, []) ∧
    (settingUp f).build = .ok s ∧ s.select s.filter = .ok [Suite.Copy.test] := by
  have hc : Config.ofJson (.obj [("filter", .obj [("exclude", .arr [.str "slow"])])]) =
      .ok (only { exclude := ["slow"] }) := rfl
  obtain ⟨hb, hl⟩ := narrowed_settings excluding_readFile hc "kernel"
  obtain ⟨-, hsettled⟩ := text_follows_settled_mode (c := picking "kernel")
    (h := narrowed "filter.exclude=['slow']") (by decide) rfl rfl rfl
  obtain ⟨below, hb', htakes⟩ := hsettled _ _ hl
  obtain rfl := Except.ok.inj (hb.symm.trans hb')
  obtain ⟨-, hanswer⟩ := (htakes _ rfl rfl (settingUp_reachable _)).part rfl rfl
  exact ⟨_, _, hl, rfl, (hanswer _ rfl).2⟩

theorem exact_readFile : Config.readFile (lone "filter.exact=true") "ci" =
    .ok (.obj [("filter", .obj [("exact", .bool true)])]) := by
  simp only [Config.readFile, readText_lone]
  cbv

/-- Without any flag, a text that occurs in the name of a test is refused as the name of none. -/
theorem text_taken_for_name : ∃ f s,
    (picking "kernel").settings (narrowed "filter.exact=true") = .ok (only f, []) ∧
    (settingUp f).build = .ok s ∧ s.exclude = [] ∧
    Suite.Copy.test ∈ s.registry.entries.toList ∧
    "kernel".toList <:+: Suite.Copy.test.name.toList ∧
    s.select s.filter = .error (.testNotFound "kernel") := by
  have hc : Config.ofJson (.obj [("filter", .obj [("exact", .bool true)])]) =
      .ok (only { exact := true }) := rfl
  obtain ⟨-, hl⟩ := narrowed_settings exact_readFile hc "kernel"
  refine ⟨_, _, hl, rfl, rfl, .head _, by decide, ?_⟩
  have hi : (Registry.pair Suite.Copy.test Suite.Reduction.test).Indexed :=
    (settingUp_reachable {} _ rfl).indexed
  exact Session.select_unknown hi (by decide)

end CommandLine

end Conformance
