import Conformance.Command.Running
import Conformance.Proofs.Overrides
import Mathlib

namespace Conformance

open Config (Leaf readAt)

variable {α : Type} {c c' : Config}

namespace Json

theorem bind_part?_overlay {bs gs ts : Dictionary Json} {group : String × Nat} {name : String}
    {inner : Json → Option Json} {o : Option Json}
    (hi : ∀ ms : Dictionary Json, inner (.obj ms) = ms.get? name)
    (hb : bs.get? group.1 = some (.obj gs)) (hl : gs.get? name = o)
    (ho : ∀ b ∈ o, ∀ ms, b ≠ .obj ms) (hs : ts.Sorted)
    (ht : ∀ g, ts.get? group.1 = some g → ∃ ms : Dictionary Json, g = .obj ms ∧ ms.Sorted) :
    (((obj bs).overlay (.obj ts)).part? group).bind inner =
      (((obj ts).part? group).bind inner).or o := by
  change ((overlayMembers bs ts).get? group.1).bind inner = ((ts.get? group.1).bind inner).or o
  rw [get?_overlayMembers hs, hb]
  cases hg : ts.get? group.1 with
  | none => exact (hi gs).trans hl
  | some g =>
    obtain ⟨ms, rfl, hms⟩ := ht g hg
    change inner (.obj (overlayMembers gs ms)) = (inner (.obj ms)).or o
    rw [hi, hi, get?_overlayMembers hms, hl]
    cases ms.get? name with
    | none => rfl
    | some j =>
      refine congrArg some (overlay_of_not_obj ?_ j)
      cases o with
      | none => nofun
      | some b => exact ho b rfl

def parameter? (k : String) (j : Json) : Option String :=
  ((j.part? ("parameters", 4)).bind (member? k)).bind asString?

end Json

namespace Config

/-- A profile that settles settings one by one: it is an object, and so are the groups in it. -/
def Tabular (profile : Json) : Prop :=
  profile.IsObject ∧ ∀ group ∈ ["filter", "run", "report", "device", "parameters"],
    ∀ g ∈ profile.member? group, g.IsObject

instance : DecidablePred Tabular := fun profile ↦
  inferInstanceAs (Decidable (profile.IsObject ∧
    ∀ group ∈ ["filter", "run", "report", "device", "parameters"],
      ∀ g ∈ profile.member? group, g.IsObject))

theorem Tabular.groups {t : Toml} (h : Tabular t.toJson) :
    ∃ ts : Dictionary Json, t.toJson = .obj ts ∧ ts.Sorted ∧
      ∀ group ∈ ["filter", "run", "report", "device", "parameters"],
        ∀ g, ts.get? group = some g → ∃ ms : Dictionary Json, g = .obj ms ∧ ms.Sorted := by
  obtain ⟨ts, hts⟩ := h.1.eq_obj
  obtain ⟨hs, ht⟩ := Toml.toJson_eq_obj hts
  refine ⟨ts, hts, hs, fun group hg g he ↦ ?_⟩
  have hm : t.toJson.member? group = some g := by
    rw [hts]
    exact he
  obtain ⟨ms, rfl⟩ := (h.2 group hg g hm).eq_obj
  obtain ⟨t', ht'⟩ := ht group _ he
  exact ⟨ms, rfl, (Toml.toJson_eq_obj ht').1⟩

theorem at?_overlay (l : Leaf α) (c : Config) {t : Toml} (h : Tabular t.toJson) :
    (c.toJson.overlay t.toJson).at? l.path =
      (t.toJson.at? l.path).or (some (l.write (l.get c))) := by
  obtain ⟨ts, hts, hs, hg⟩ := h.groups
  rw [hts]
  cases l with
  | verbose =>
    rw [Leaf.path, Json.at?_one, Json.at?_one]
    change (Json.overlayMembers _ ts).get? "verbose" = (ts.get? "verbose").or _
    rw [Json.get?_overlayMembers hs]
    cases ts.get? "verbose" with
    | none => rfl
    | some j =>
      exact congrArg some (Json.overlay_of_not_obj (Leaf.write_ne_obj .verbose c.verbose) j)
  | _ =>
    rw [Leaf.path, Json.at?_two, Json.at?_two]
    refine Json.bind_part?_overlay (fun _ ↦ rfl) rfl rfl ?_ hs (hg _ ?_)
    · rintro b ⟨⟩
      exact Leaf.write_ne_obj _ _
    · decide

theorem textMap_eq_ok {j : Json} {d : Dictionary String} (h : textMap j = .ok d) (k : String) :
    j.member? k = (d.get? k).map .str := by
  cases j with
  | obj ms =>
    change ms.lookup k = _
    rw [textMap] at h
    induction ms generalizing d with
    | nil =>
      cases h
      rfl
    | cons e ms ih =>
      obtain ⟨k', j⟩ := e
      rw [List.mapM_cons] at h
      simp only [bind_eq_ok_iff, map_eq_ok_iff] at h
      obtain ⟨_, ⟨s, hs, rfl⟩, rest, hr, hd⟩ := h
      cases hd
      change Dictionary.get? _ k = _
      rw [Dictionary.get?_cons, Dictionary.get?_cons]
      split
      · cases j <;> cases hs
        rfl
      · exact ih hr
  | _ => cases h

theorem member?_parameters_of_ofJson {j : Json} (h : ofJson j = .ok c) (k : String) :
    (j.part? ("parameters", 4)).bind (Json.member? k) = (c.parameters.get? k).map .str := by
  obtain ⟨-, -, -, -, hp, -⟩ := ofJson_eq_ok h
  cases hj : j.part? ("parameters", 4) with
  | none =>
    rw [hj] at hp
    rw [← Except.ok.inj hp]
    rfl
  | some ms =>
    rw [hj] at hp
    exact textMap_eq_ok hp k

theorem parameter?_of_ofJson {j : Json} (h : ofJson j = .ok c) (k : String) :
    j.parameter? k = c.parameters.get? k := by
  rw [Json.parameter?, member?_parameters_of_ofJson h]
  cases c.parameters.get? k <;> rfl

theorem get?_map_str (d : Dictionary String) (k : String) :
    Dictionary.get? (d.map fun (k, s) ↦ (k, Json.str s)) k = (d.get? k).map .str := by
  induction d with
  | nil => rfl
  | cons e d ih =>
    rw [List.map_cons, Dictionary.get?_cons, Dictionary.get?_cons, ih]
    split <;> rfl

section Profile

variable {t : Toml} (h : Tabular t.toJson) (hc : ofJson (c.toJson.overlay t.toJson) = .ok c')
include h hc

theorem Leaf.get_of_overlay (l : Leaf α) {file : Json} (hf : l.readFrom file = .ok (l.get c)) :
    readAt l.read (l.get {}) ((t.toJson.at? l.path).or (file.at? l.path)) = .ok (l.get c') := by
  have hr := l.readFrom_of_ofJson hc
  rw [Leaf.readFrom, at?_overlay l c h] at hr
  cases ht : t.toJson.at? l.path with
  | none =>
    rw [ht] at hr
    rw [l.eq_of_read_write hr]
    exact hf
  | some j =>
    rw [ht] at hr
    exact hr

theorem parameters_of_overlay (k : String) :
    c'.parameters.get? k = (t.toJson.parameter? k).or (c.parameters.get? k) := by
  obtain ⟨ts, hts, hs, hg⟩ := h.groups
  have hm := member?_parameters_of_ofJson hc k
  rw [hts, Config.toJson, Json.bind_part?_overlay (fun _ ↦ rfl) rfl (get?_map_str c.parameters k)
    ?_ hs (hg _ (by decide))] at hm
  · rw [hts, Json.parameter?]
    cases hp : ((Json.obj ts).part? ("parameters", 4)).bind (Json.member? k) with
    | none =>
      rw [hp] at hm
      exact (Option.map_injective (fun _ _ ↦ Json.str.inj) hm).symm
    | some j =>
      rw [hp] at hm
      obtain ⟨s, hs, rfl⟩ := Option.map_eq_some_iff.1 hm.symm
      exact hs
  · rintro b hb
    obtain ⟨s, -, rfl⟩ := Option.map_eq_some_iff.1 hb
    nofun

end Profile

end Config

/-- What settings can come from beside the environment; a layer that is not there says nothing. -/
structure Layers where
  file : Json
  profile : Json

namespace ConfigSource

def fileLayer? (s : ConfigSource) (files : FileTree) : Option Json :=
  match s.file? files with
  | some path => (Config.readFile files path s.readers).toOption
  | none => some (.obj [])

def profileLayer? (s : ConfigSource) (env : Environment) (file : Json) : Option Json :=
  match s.profile? env with
  | some name => (Config.profiles file).get? name
  | none => some (.obj [])

def layers? (s : ConfigSource) (files : FileTree) (env : Environment) : Option Layers := do
  let file ← s.fileLayer? files
  return ⟨file, ← s.profileLayer? env file⟩

end ConfigSource

namespace Layers

/-- The value of a setting: what is said above the profile, or else what the profile holds at its
place, or else the file, or else the default. -/
inductive Highest (ls : Layers) (l : Leaf α) : Option α → α → Prop
  | said (a : α) : Highest ls l (some a) a
  | profile {j : Json} {a : α} : ls.profile.at? l.path = some j → l.Denotes j a →
      Highest ls l none a
  | file {j : Json} {a : α} : ls.profile.at? l.path = none → ls.file.at? l.path = some j →
      l.Denotes j a → Highest ls l none a
  | default : ls.profile.at? l.path = none → ls.file.at? l.path = none →
      Highest ls l none (l.get {})

theorem Highest.readAt_eq {ls : Layers} {l : Leaf α} {a : α} (h : ls.Highest l none a) :
    readAt l.read (l.get {}) ((ls.profile.at? l.path).or (ls.file.at? l.path)) = .ok a := by
  cases h with
  | profile hp hd =>
    rw [hp]
    exact l.read_eq_ok_iff.2 hd
  | file hp hf hd =>
    rw [hp, hf]
    exact l.read_eq_ok_iff.2 hd
  | default hp hf =>
    rw [hp, hf]
    rfl

theorem Highest.unique {ls : Layers} {l : Leaf α} {said : Option α} {a b : α}
    (h : ls.Highest l said a) (h' : ls.Highest l said b) : a = b := by
  cases said with
  | some c =>
    cases h
    cases h'
    rfl
  | none => exact Except.ok.inj (h.readAt_eq.symm.trans h'.readAt_eq)

inductive Settle : Layers → Config → Prop
  | file {file : Json} {c : Config} (h : Config.ofJson file = .ok c) : Settle ⟨file, .obj []⟩ c
  | profile {file : Json} {t : Toml} {c c' : Config} (h : Config.ofJson file = .ok c)
    (hp : Config.ofJson (c.toJson.overlay t.toJson) = .ok c') : Settle ⟨file, t.toJson⟩ c'

theorem Settle.leaf {ls : Layers} (h : ls.Settle c) (ht : Config.Tabular ls.profile) (l : Leaf α) :
    readAt l.read (l.get {}) ((ls.profile.at? l.path).or (ls.file.at? l.path)) =
      .ok (l.get c) := by
  cases h with
  | file h =>
    have hn : (Json.obj []).at? l.path = none := by cases l <;> rfl
    rw [hn]
    exact l.readFrom_of_ofJson h
  | profile h hp => exact Config.Leaf.get_of_overlay ht hp l (l.readFrom_of_ofJson h)

theorem Settle.highest {ls : Layers} (h : ls.Settle c) (ht : Config.Tabular ls.profile)
    (l : Leaf α) : ls.Highest l none (l.get c) := by
  have hr := h.leaf ht l
  cases hp : ls.profile.at? l.path with
  | some j =>
    rw [hp] at hr
    exact .profile hp (l.read_eq_ok_iff.1 hr)
  | none =>
    rw [hp] at hr
    cases hf : ls.file.at? l.path with
    | some j =>
      rw [hf] at hr
      exact .file hp hf (l.read_eq_ok_iff.1 hr)
    | none =>
      rw [hf] at hr
      rw [← Except.ok.inj hr]
      exact .default hp hf

theorem Settle.parameter {ls : Layers} (h : ls.Settle c) (ht : Config.Tabular ls.profile)
    (k : String) :
    c.parameters.get? k = (ls.profile.parameter? k).or (ls.file.parameter? k) := by
  cases h with
  | file h => exact (Config.parameter?_of_ofJson h k).symm
  | profile h hp =>
    rw [Config.parameters_of_overlay ht hp, Config.parameter?_of_ofJson h]

end Layers

namespace Config

variable {files : FileTree} {path : String} {readers : Readers} {j : Json}

theorem readFile_eq_ok (h : readFile files path readers = .ok j) : ∃ t : Toml, t.toJson = j := by
  unfold readFile at h
  split at h
  · cases h
  · split at h
    · next t _ => exact ⟨t, Except.ok.inj h⟩
    · cases h

theorem loadFile_eq_ok {known : Dictionary Json}
    (h : loadFile files path readers = .ok (c, known)) :
    ∃ j, readFile files path readers = .ok j ∧ ofJson j = .ok c ∧ known = profiles j := by
  obtain ⟨j, hj, h⟩ := bind_eq_ok_iff.1 h
  cases hc : ofJson j with
  | error e =>
    simp only [hc] at h
    cases h
  | ok c' =>
    simp only [hc] at h
    cases h
    exact ⟨j, hj, hc, rfl⟩

theorem loadFile_of_readFile (h : readFile files path readers = .ok j) :
    loadFile files path readers =
      ((ofJson j).map fun c ↦ (c, profiles j)).mapError fun e ↦ .config (.illTyped path e) := by
  rw [loadFile, h]
  dsimp only [bind, Except.bind]
  cases ofJson j <;> rfl

theorem toml_of_get?_profiles {t : Toml} {name : String} {j : Json}
    (h : (profiles t.toJson).get? name = some j) : ∃ t' : Toml, t'.toJson = j := by
  unfold profiles at h
  split at h
  · next ms hm =>
    cases ht : t.toJson with
    | obj ts =>
      rw [ht] at hm
      obtain ⟨t', ht'⟩ := (Toml.toJson_eq_obj ht).2 "profiles" _ hm
      exact (Toml.toJson_eq_obj ht').2 name j h
    | _ =>
      rw [ht] at hm
      cases hm
  · cases h

theorem withProfile_eq_ok {known : Dictionary Json} {name : String}
    (h : c.withProfile known name = .ok c') :
    ∃ top, known.get? name = some top ∧ ofJson (c.toJson.overlay top) = .ok c' := by
  unfold withProfile at h
  split at h
  · cases h
  · next top ht =>
    split at h
    · next hc =>
      cases h
      exact ⟨top, ht, hc⟩
    · cases h

theorem load_eq (s : ConfigSource) (files : FileTree) (env : Environment) :
    load s files env =
      (match s.file? files with
        | some path => loadFile files path s.readers
        | none => .ok ({}, [])) >>= fun p ↦
      (match s.profile? env with
        | some name => p.1.withProfile p.2 name
        | none => .ok p.1) >>= fun c ↦
      .ok (if s.useEnvironment then env.applyTo c else (c, [])) := by
  unfold load
  cases s.file? files <;> cases s.profile? env <;> rfl

def settled (s : ConfigSource) (files : FileTree) (name? : Option String) :
    Except HarnessError Config :=
  (match s.file? files with
    | some path => loadFile files path s.readers
    | none => .ok ({}, [])) >>= fun p ↦
  match name? with
    | some name => p.1.withProfile p.2 name
    | none => .ok p.1

theorem load_eq_map (s : ConfigSource) (files : FileTree) (env : Environment) :
    load s files env = (settled s files (s.profile? env)).map fun c ↦
      if s.useEnvironment then env.applyTo c else (c, []) :=
  (load_eq s files env).trans bind_bind_ok

theorem load_eq_ok {s : ConfigSource} {files : FileTree} {env : Environment} {ns : List Notice}
    (h : load s files env = .ok (c', ns)) :
    ∃ ls c, s.layers? files env = some ls ∧ ls.Settle c ∧
      (if s.useEnvironment then env.applyTo c else (c, [])) = (c', ns) := by
  rw [load_eq] at h
  obtain ⟨⟨c₀, known⟩, hfile, hrest⟩ := bind_eq_ok_iff.1 h
  obtain ⟨c, hprofile, henv⟩ := bind_eq_ok_iff.1 hrest
  have hread : ∃ t : Toml, s.fileLayer? files = some t.toJson ∧ ofJson t.toJson = .ok c₀ ∧
      known = profiles t.toJson := by
    rw [ConfigSource.fileLayer?]
    cases hp : s.file? files with
    | none =>
      rw [hp] at hfile
      cases hfile
      have ht : (Toml.table []).toJson = .obj [] := by rw [Toml.toJson]; rfl
      exact ⟨.table [], by rw [ht], by rw [ht]; rfl, by rw [ht]; rfl⟩
    | some path =>
      rw [hp] at hfile
      obtain ⟨j, hj, hc, hk⟩ := loadFile_eq_ok hfile
      obtain ⟨t, rfl⟩ := readFile_eq_ok hj
      exact ⟨t, congrArg Except.toOption hj, hc, hk⟩
  obtain ⟨t, hlayer, hc₀, rfl⟩ := hread
  rw [ConfigSource.layers?, hlayer, Option.bind_eq_bind, Option.bind_some,
    ConfigSource.profileLayer?]
  cases hn : s.profile? env with
  | none =>
    rw [hn] at hprofile
    cases hprofile
    exact ⟨⟨t.toJson, .obj []⟩, c₀, rfl, .file hc₀, Except.ok.inj henv⟩
  | some name =>
    rw [hn] at hprofile
    obtain ⟨top, hget, hover⟩ := withProfile_eq_ok hprofile
    obtain ⟨t', rfl⟩ := toml_of_get?_profiles hget
    refine ⟨⟨t.toJson, t'.toJson⟩, c, ?_, .profile hc₀ hover, Except.ok.inj henv⟩
    simp only [hget]
    rfl

end Config

namespace CommandLine

def leaf? (c : CommandLine) : {α : Type} → Leaf α → Option α
  | _, .pattern => c.filter.map some
  | _, .exact => if c.regex then some false else if c.exact then some true else none
  | _, .regex => if c.regex then some true else if c.exact then some false else none
  | _, .timeout => c.timeout.map some
  | _, .showNotes => c.showNotes
  | _, .json => c.json.map some
  | _, .threads => c.threads
  | _, .verbose => if c.verbose then some true else none
  | _, _ => none

/-- A setting with what a command line adds to it, which are texts to exclude. -/
def extend (c : CommandLine) : {α : Type} → Leaf α → α → α
  | _, .exclude, texts => texts ++ c.exclude
  | _, _, a => a

theorem get_applyTo (c : CommandLine) (l : Leaf α) (config : Config) :
    l.get (c.applyTo config) = c.extend l ((c.leaf? l).getD (l.get config)) := by
  cases l with
  | exact | regex =>
    cases hr : c.regex <;> cases he : c.exact <;> simp [applyTo, extend, leaf?, Leaf.get, hr, he]
  | verbose => cases hv : c.verbose <;> simp [applyTo, extend, leaf?, Leaf.get, hv]
  | pattern => cases hf : c.filter <;> simp [applyTo, extend, leaf?, Leaf.get, hf]
  | timeout => cases ht : c.timeout <;> simp [applyTo, extend, leaf?, Leaf.get, ht]
  | json => cases hj : c.json <;> simp [applyTo, extend, leaf?, Leaf.get, hj]
  | _ => rfl

def lone (text : String) : FileTree where
  entries := [(["ci"], .file text.toUTF8)]

theorem readText_lone (text : String) : (lone text).readText "ci" = .ok text := by
  have hn : Path.names "ci" = ["ci"] := by cbv
  have hd : Path.asksForDirectory "ci" = false := by cbv
  have hr : (lone text).relative "ci" = "ci" := rfl
  have hf : (lone text).follow (Path.start "ci") ["ci"] =
      .ok (["ci"], some (.file text.toUTF8)) := rfl
  have hl : (lone text).locate "ci" = .ok (["ci"], some (.file text.toUTF8)) := by
    simp only [FileTree.locate, hr, hn, hf]
    rfl
  have hu : String.fromUTF8? text.toUTF8 = some text := dif_pos text.isValidUTF8
  simp only [FileTree.readText, hl, hd, hu]
  rfl

def layered : Host where
  files := lone "run.timeout=5\nfilter.pattern='a'\n[profiles.p.filter]\npattern='b'\nexclude=['c']"
  env := [("CTS_HARNESS_EXCLUDE", " slow,\t, d"), ("CTS_HARNESS_PROFILE", "p"),
    ("CTS_HARNESS_VAR_n", "4")]

def layeredLayers : Layers where
  file := .obj [("filter", .obj [("pattern", .str "a")]),
    ("profiles", .obj [("p", .obj [("filter",
      .obj [("exclude", .arr [.str "c"]), ("pattern", .str "b")])])]),
    ("run", .obj [("timeout", .int 5)])]
  profile := .obj [("filter", .obj [("exclude", .arr [.str "c"]), ("pattern", .str "b")])]

def asking : CommandLine where
  config := some "ci"
  exclude := ["e"]
  regex := true

set_option maxRecDepth 8000 in
theorem layered_readFile : Config.readFile layered.files "ci" = .ok layeredLayers.file := by
  simp only [Config.readFile, layered, readText_lone]
  cbv

theorem asking_layers? :
    (asking.source layered).layers? layered.files layered.env = some layeredLayers := by
  have hf : (asking.source layered).fileLayer? layered.files = some layeredLayers.file :=
    congrArg Except.toOption layered_readFile
  rw [ConfigSource.layers?, hf]
  rfl

theorem asking_loadConfig : ∃ config, asking.loadConfig layered = .ok (config, []) := by
  have hf : (asking.source layered).file? layered.files = some "ci" := rfl
  have hr : (asking.source layered).readers = {} := rfl
  rw [loadConfig, Config.load_eq, hf, hr]
  simp only [Config.loadFile, layered_readFile]
  exact ⟨_, rfl⟩

theorem trims_blank {blank : Char} {text : List Char} (hb : Environment.White blank)
    (hf : ∀ c ∈ text.head?, ¬ Environment.White c)
    (hl : ∀ c ∈ text.getLast?, ¬ Environment.White c) :
    Environment.Trims (blank :: text) text :=
  ⟨[blank], [], by simp, by simpa using hb, nofun, hf, hl⟩

theorem layered_tells_exclude : layered.env.Tells .exclude (some ["slow", "d"]) := by
  have hv : Environment.variableOf? .exclude = some "EXCLUDE" := rfl
  have slow : Environment.Trims " slow".toList "slow".toList :=
    trims_blank (by decide) (by rintro _ ⟨⟩; decide) (by rintro _ ⟨⟩; decide)
  have nothing : Environment.Trims "\t".toList [] := trims_blank (by decide) nofun nofun
  have d : Environment.Trims " d".toList "d".toList :=
    trims_blank (by decide) (by rintro _ ⟨⟩; decide) (by rintro _ ⟨⟩; decide)
  have hlists : Environment.Lists " slow,\t, d" ["slow", "d"] :=
    ⟨_, _, by decide, by decide, by decide, .cons slow (.cons nothing (.cons d .nil)), by decide⟩
  exact .said hv rfl (by decide) hlists

end CommandLine

end Conformance
