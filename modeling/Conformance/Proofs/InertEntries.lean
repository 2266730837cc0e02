import Conformance.Proofs.TwoReaders

namespace Conformance

/-- The error without the place of the file that it is about. -/
def HarnessError.placeless : HarnessError → HarnessError
  | .config (.illTyped _ cause) => .config (.illTyped "" cause)
  | .config (.unreadable _ cause) => .config (.unreadable "" cause)
  | e => e

/-- The source has a file, and this is the document in it. -/
def ConfigSource.Holds (s : ConfigSource) (files : FileTree) (t : Toml) : Prop :=
  ∃ path text, s.file? files = some path ∧ files.readText path = .ok text ∧
    Toml.ofText? text = some t

namespace Config

variable {α : Type} {j j' : Json} {ms ms' : Dictionary Json} {names : List String}

def groupMembers : List (String × List String) :=
  [("filter", ["pattern", "exact", "regex", "exclude"]), ("run", ["timeout"]),
    ("report", ["show-notes", "json"]),
    ("device", ["threads", "max-work-group-size", "sub-group-size", "fp64", "atomic64"])]

def orEmpty (o : Option Json) : Json := o.getD (.obj [])

/-- The groups are the same, or both are objects whose members of these names are the same. -/
def AlikeOn (names : List String) (j j' : Json) : Prop :=
  j = j' ∨ j.IsObject ∧ j'.IsObject ∧ ∀ k ∈ names, j.member? k = j'.member? k

/-- The values say the same about all settings. -/
structure Alike (j j' : Json) : Prop where
  groups : ∀ g ∈ groupMembers, AlikeOn g.2 (orEmpty (j.member? g.1)) (orEmpty (j'.member? g.1))
  parameters : orEmpty (j.member? "parameters") = orEmpty (j'.member? "parameters")
  verbose : j.member? "verbose" = j'.member? "verbose"

theorem member_of_orEmpty {read : Typed α} {default : α} (hd : read (.obj []) = .ok default)
    {name : String} (h : read (orEmpty (ms.get? name)) = read (orEmpty (ms'.get? name))) :
    member name read default ms = member name read default ms' := by
  have hm : ∀ ms : Dictionary Json,
      member name read default ms = read (orEmpty (ms.get? name)) := by
    intro ms
    unfold member orEmpty Dictionary.get?
    cases ms.lookup name with
    | none => exact hd.symm
    | some j => rfl
  rw [hm, hm, h]

theorem ofAlikeOn {read : Typed α} (h : AlikeOn names j j')
    (hread : ∀ ms ms' : Dictionary Json, (∀ k ∈ names, ms.get? k = ms'.get? k) →
      read (.obj ms) = read (.obj ms')) : read j = read j' := by
  obtain rfl | ⟨hj, hj', hk⟩ := h
  · rfl
  · obtain ⟨ms, rfl⟩ := hj.eq_obj
    obtain ⟨ms', rfl⟩ := hj'.eq_obj
    exact hread ms ms' hk

theorem member_congr {name : String} (read : Typed α) (default : α)
    (h : ms.get? name = ms'.get? name) :
    member name read default ms = member name read default ms' := by
  have hl : ms.lookup name = ms'.lookup name := h
  rw [member, member, hl]

end Config

open Config

section

variable {j j' : Json}

theorem FilterConfig.ofJson_congr (h : AlikeOn ["pattern", "exact", "regex", "exclude"] j j') :
    ofJson j = ofJson j' := by
  apply ofAlikeOn h
  intro ms ms' hk
  simp only [List.forall_mem_cons] at hk
  obtain ⟨hpattern, hexact, hregex, hexclude, -⟩ := hk
  simp only [ofJson, member_congr _ _ hpattern, member_congr _ _ hexact, member_congr _ _ hregex,
    member_congr _ _ hexclude]

theorem RunConfig.ofJson_congr (h : AlikeOn ["timeout"] j j') : ofJson j = ofJson j' := by
  apply ofAlikeOn h
  intro ms ms' hk
  simp only [ofJson, member_congr _ _ (hk "timeout" (by decide))]

theorem ReportConfig.ofJson_congr (h : AlikeOn ["show-notes", "json"] j j') :
    ofJson j = ofJson j' := by
  apply ofAlikeOn h
  intro ms ms' hk
  simp only [ofJson, member_congr _ _ (hk "show-notes" (by decide)),
    member_congr _ _ (hk "json" (by decide))]

theorem DeviceConfig.ofJson_congr
    (h : AlikeOn ["threads", "max-work-group-size", "sub-group-size", "fp64", "atomic64"] j j') :
    ofJson j = ofJson j' := by
  apply ofAlikeOn h
  intro ms ms' hk
  simp only [List.forall_mem_cons] at hk
  obtain ⟨hthreads, hmost, hwidth, hfp64, hatomic64, -⟩ := hk
  simp only [ofJson, member_congr _ _ hthreads, member_congr _ _ hmost, member_congr _ _ hwidth,
    member_congr _ _ hfp64, member_congr _ _ hatomic64]

theorem Config.ofJson_congr {ms ms' : Dictionary Json} (h : Alike (.obj ms) (.obj ms')) :
    ofJson (.obj ms) = ofJson (.obj ms') := by
  have hfilter : member "filter" FilterConfig.ofJson {} ms =
      member "filter" FilterConfig.ofJson {} ms' :=
    member_of_orEmpty (by rfl) (FilterConfig.ofJson_congr (h.groups ("filter", _) (by decide)))
  have hrun : member "run" RunConfig.ofJson {} ms = member "run" RunConfig.ofJson {} ms' :=
    member_of_orEmpty (by rfl) (RunConfig.ofJson_congr (h.groups ("run", _) (by decide)))
  have hreport : member "report" ReportConfig.ofJson {} ms =
      member "report" ReportConfig.ofJson {} ms' :=
    member_of_orEmpty (by rfl) (ReportConfig.ofJson_congr (h.groups ("report", _) (by decide)))
  have hdevice : member "device" DeviceConfig.ofJson {} ms =
      member "device" DeviceConfig.ofJson {} ms' :=
    member_of_orEmpty (by rfl) (DeviceConfig.ofJson_congr (h.groups ("device", _) (by decide)))
  have hparameters : member "parameters" textMap [] ms = member "parameters" textMap [] ms' :=
    member_of_orEmpty (by rfl) (congrArg textMap h.parameters)
  have hverbose := member_congr bool false h.verbose
  simp only [ofJson, hfilter, hrun, hreport, hdevice, hparameters, hverbose]

end

namespace Config

theorem toJson_table_of_ofText? {text : String} {t : Toml} (h : Toml.ofText? text = some t) :
    ∃ ms, t.toJson = .obj ms := by
  obtain ⟨⟨entries, rfl⟩, -⟩ := Toml.ofText?_eq_some h
  exact ⟨_, Toml.toJson_of_asTable? rfl⟩

/-- What becomes of a file that says this, without its place. -/
theorem settled_placeless {s : ConfigSource} {files : FileTree} {t : Toml}
    (hs : s.Holds files t) (hu : t.Everywhere Toml.Unmarked) (name? : Option String) :
    (settled s files name?).mapError HarnessError.placeless =
      match ofJson t.toJson with
      | .error e => .error (.config (.illTyped "" e))
      | .ok c => match name? with
        | none => .ok c
        | some name =>
          (c.withProfile (profiles t.toJson) name).mapError HarnessError.placeless := by
  obtain ⟨path, text, hf, hr, ht⟩ := hs
  rw [settled, hf]
  simp only [loadFile_of_readFile (readFile_of_unmarked hr ht hu)]
  cases ofJson t.toJson with
  | error e => rfl
  | ok c => cases name? <;> rfl

theorem withProfile_congr {c : Config} {known known' : Dictionary Json} {name : String} {top : Json}
    (h : known.get? name = some top) (h' : known'.get? name = some top) :
    c.withProfile known name = c.withProfile known' name := by
  rw [withProfile, withProfile, h, h']

/-- Loading two files that agree on all settings and on the profile that is selected comes to the
same, but for the places of the files in what is said about them. -/
theorem load_of_alike {s s' : ConfigSource} {files files' : FileTree} {env : Environment}
    {t t' : Toml} (hs : s.Holds files t) (hs' : s'.Holds files' t')
    (hu : t.Everywhere Toml.Unmarked) (hu' : t'.Everywhere Toml.Unmarked)
    (hp : s.profile = s'.profile) (he : s.useEnvironment = s'.useEnvironment)
    (ha : Alike t.toJson t'.toJson)
    (hprofile : ∀ name, s.profile? env = some name → ∃ top,
      (profiles t.toJson).get? name = some top ∧ (profiles t'.toJson).get? name = some top) :
    (load s files env).mapError HarnessError.placeless =
      (load s' files' env).mapError HarnessError.placeless := by
  have hname : s'.profile? env = s.profile? env := by
    rw [ConfigSource.profile?, ConfigSource.profile?, hp, he]
  have hread : ofJson t.toJson = ofJson t'.toJson := by
    obtain ⟨_, _, _, _, ht⟩ := hs
    obtain ⟨_, _, _, _, ht'⟩ := hs'
    obtain ⟨ms, hms⟩ := toJson_table_of_ofText? ht
    obtain ⟨ms', hms'⟩ := toJson_table_of_ofText? ht'
    rw [hms, hms'] at ha ⊢
    exact ofJson_congr ha
  have hsettled : (settled s files (s.profile? env)).mapError HarnessError.placeless =
      (settled s' files' (s'.profile? env)).mapError HarnessError.placeless := by
    rw [settled_placeless hs hu, settled_placeless hs' hu', hname, hread]
    cases ofJson t'.toJson with
    | error e => rfl
    | ok c =>
      cases hn : s.profile? env with
      | none => rfl
      | some name =>
        obtain ⟨top, htop, htop'⟩ := hprofile name hn
        simp only [withProfile_congr htop htop']
  rw [load_eq_map, load_eq_map, mapError_map, mapError_map, hsettled, he]

theorem holds_lone {s : ConfigSource} {text : String} {t : Toml} (hs : s.file = some "ci")
    (ht : Toml.ofText? text = some t) : s.Holds (CommandLine.lone text) t := by
  refine ⟨"ci", text, ?_, CommandLine.readText_lone text, ht⟩
  rw [ConfigSource.file?, hs]

def profiled : ConfigSource := { file := some "ci", profile := some "p", useEnvironment := false }

def terseText : String := "[filter]\npattern='a'\n[profiles.p.run]\ntimeout=5"

def terse : Toml :=
  .table [("filter", .table [("pattern", .string "a")]),
    ("profiles", .table [("p", .table [("run", .table [("timeout", .integer 5)])])])]

def chattyText : String :=
  "note='x'\n[filter]\nnote=1\npattern='a'\n[device]\nnote=1\n" ++
    "[profiles]\nq=3\n[profiles.p.run]\ntimeout=5"

def chatty : Toml :=
  .table [("note", .string "x"),
    ("filter", .table [("note", .integer 1), ("pattern", .string "a")]),
    ("device", .table [("note", .integer 1)]),
    ("profiles", .table [("q", .integer 3),
      ("p", .table [("run", .table [("timeout", .integer 5)])])])]

theorem ofText?_terseText : Toml.ofText? terseText = some terse := by
  unfold terseText terse
  cbv

theorem ofText?_chattyText : Toml.ofText? chattyText = some chatty := by
  unfold chattyText chatty
  cbv

theorem terse_alike_chatty : Alike terse.toJson chatty.toJson := by
  constructor
  · simp only [groupMembers, List.forall_mem_cons]
    refine ⟨.inr ⟨trivial, trivial, ?_⟩, .inl rfl, .inl rfl, .inr ⟨trivial, trivial, ?_⟩, nofun⟩
    · simp only [List.forall_mem_cons]
      exact ⟨rfl, rfl, rfl, rfl, nofun⟩
    · simp only [List.forall_mem_cons]
      exact ⟨rfl, rfl, rfl, rfl, rfl, nofun⟩
  · rfl
  · rfl

theorem load_of_alike_chatty :
    profiled.Holds (CommandLine.lone terseText) terse ∧
    profiled.Holds (CommandLine.lone chattyText) chatty ∧
    terse.Everywhere Toml.Unmarked ∧ chatty.Everywhere Toml.Unmarked ∧
    Alike terse.toJson chatty.toJson ∧
    (load profiled (CommandLine.lone chattyText) []).mapError HarnessError.placeless =
      .ok ({ filter := { pattern := some "a" }, run := { timeout := some 5 } }, []) := by
  have hs := holds_lone (s := profiled) rfl ofText?_terseText
  have hs' := holds_lone (s := profiled) rfl ofText?_chattyText
  have hu : terse.Everywhere Toml.Unmarked := by decide
  have hu' : chatty.Everywhere Toml.Unmarked := by decide
  refine ⟨hs, hs', hu, hu', terse_alike_chatty, ?_⟩
  have hprofile : ∀ name, profiled.profile? [] = some name → ∃ top,
      (profiles terse.toJson).get? name = some top ∧
      (profiles chatty.toJson).get? name = some top := by
    rintro name ⟨⟩
    exact ⟨_, rfl, rfl⟩
  rw [← load_of_alike hs hs' hu hu' rfl rfl terse_alike_chatty hprofile, load_eq_map, mapError_map,
    settled_placeless hs hu]
  rfl

def quietText : String := "[filter]\npattern='a'"

def quiet : Toml := .table [("filter", .table [("pattern", .string "a")])]

def strayText : String := "[filter]\npattern='a'\n[other]\n'$__toml_private_datetime'='x'"

def stray : Toml :=
  .table [("filter", .table [("pattern", .string "a")]),
    ("other", .table [(Toml.dateTimeKey, .string "x")])]

theorem ofText?_quietText : Toml.ofText? quietText = some quiet := by
  unfold quietText quiet
  cbv

theorem ofText?_strayText : Toml.ofText? strayText = some stray := by
  unfold strayText stray
  cbv

theorem quiet_alike_stray : Alike quiet.toJson stray.toJson := by
  constructor
  · simp only [groupMembers, List.forall_mem_cons]
    exact ⟨.inl rfl, .inl rfl, .inl rfl, .inl rfl, nofun⟩
  · rfl
  · rfl

/-- A table that nobody asks for keeps the file from being read if it passes for a date. -/
theorem load_of_alike_stray :
    alone.Holds (CommandLine.lone quietText) quiet ∧
    alone.Holds (CommandLine.lone strayText) stray ∧
    Alike quiet.toJson stray.toJson ∧
    (load alone (CommandLine.lone quietText) []).mapError HarnessError.placeless =
      .ok ({ filter := { pattern := some "a" } }, []) ∧
    (load alone (CommandLine.lone strayText) []).mapError HarnessError.placeless =
      .error (.malformedToml "malformed document") := by
  have hs := holds_lone (s := alone) rfl ofText?_quietText
  have hs' := holds_lone (s := alone) rfl ofText?_strayText
  refine ⟨hs, hs', quiet_alike_stray, ?_, ?_⟩
  · rw [load_eq_map, mapError_map, settled_placeless hs (by decide)]
    rfl
  · rw [load_alone_eq_error]
    · rfl
    · rw [Toml.ofUntypedText?, ofText?_strayText]
      cbv

end Config

end Conformance
