import Conformance.Proofs.DistinctNames
import Conformance.Proofs.Layers

namespace Conformance

def Json.IsScalar : Json → Prop
  | .arr _ | .obj _ => False
  | _ => True

namespace Toml

variable {α : Type} {t : Toml} {entries : List (String × Toml)} {name : String}

def IsFinite : Toml → Prop
  | float x => x.isFinite = true
  | _ => True

instance : DecidablePred IsFinite := fun t ↦
  match t with
  | float x => inferInstanceAs (Decidable (x.isFinite = true))
  | string _ | integer _ | boolean _ | dateTime _ | array _ | table _ => .isTrue trivial

def IsArray : Toml → Prop
  | array _ => True
  | _ => False

def IsTable : Toml → Prop
  | table _ => True
  | _ => False

instance : DecidablePred IsArray := fun t ↦
  match t with
  | array _ => .isTrue trivial
  | string _ | integer _ | float _ | boolean _ | dateTime _ | table _ => .isFalse id

instance : DecidablePred IsTable := fun t ↦
  match t with
  | table _ => .isTrue trivial
  | string _ | integer _ | float _ | boolean _ | dateTime _ | array _ => .isFalse id

def child? (name : String) (t : Toml) : Option Toml := t.asTable?.bind (·.lookup name)

theorem elementsToJson_eq_map (es : List Toml) : elementsToJson es = es.map toJson := by
  induction es with
  | nil => rfl
  | cons e es ih => rw [elementsToJson, ih, List.map_cons]

theorem toJson_of_asTable? (h : t.asTable? = some entries) :
    t.toJson = .obj (entriesToJson entries) := by
  cases t with
  | table _ =>
    cases h
    rw [toJson]
  | dateTime d =>
    cases h
    rw [toJson, entriesToJson, entriesToJson, toJson]
    rfl
  | _ => cases h

theorem toJson_cases {motive : Toml → Json → Prop} (string : ∀ s, motive (string s) (.str s))
    (integer : ∀ n, motive (integer n) (.int n)) (float : ∀ x, motive (float x) (.float x))
    (missing : ∀ x, ¬ (Toml.float x).IsFinite → motive (.float x) .null)
    (boolean : ∀ b, motive (boolean b) (.bool b))
    (dateTime : ∀ d, motive (dateTime d) (.obj [(dateTimeKey, .str d.text)]))
    (array : ∀ es, motive (array es) (.arr (es.map toJson)))
    (table : ∀ entries, motive (table entries) (.obj (entriesToJson entries))) (t : Toml) :
    motive t t.toJson := by
  cases t with
  | string s =>
    rw [toJson]
    exact string s
  | integer n =>
    rw [toJson]
    exact integer n
  | float x =>
    rw [toJson]
    split
    · exact float x
    · exact missing x ‹_›
  | boolean b =>
    rw [toJson]
    exact boolean b
  | dateTime d =>
    rw [toJson]
    exact dateTime d
  | array es =>
    rw [toJson, elementsToJson_eq_map]
    exact array es
  | table entries =>
    rw [toJson]
    exact table entries

theorem finite_entries (h : t.Everywhere IsFinite) (he : t.asTable? = some entries) :
    ∀ e ∈ entries, e.2.Everywhere IsFinite := by
  cases t with
  | table _ =>
    cases he
    exact (everywhere_table.1 h).2
  | dateTime d =>
    cases he
    rw [List.forall_mem_singleton]
    exact IsScalar.everywhere (t := .string d.text) trivial trivial
  | _ => cases he

end Toml

namespace Config

open Toml

variable {α : Type} {t : Toml} {entries : List (String × Toml)} {name : String}

theorem bool_toJson (t : Toml) : (bool t.toJson).toOption = t.asBool? := by
  apply toJson_cases (motive := fun t j ↦ (bool j).toOption = t.asBool?) <;> intros <;> rfl

theorem text_toJson (wanted : String) (t : Toml) :
    (text wanted t.toJson).toOption = t.asString? := by
  apply toJson_cases (motive := fun t j ↦ (text wanted j).toOption = t.asString?) <;>
    intros <;> rfl

theorem word_toJson (wanted : String) (t : Toml) : (word wanted t.toJson).toOption = t.asWord? := by
  apply toJson_cases (motive := fun t j ↦ (word wanted j).toOption = t.asWord?)
  case integer =>
    intro n
    cases n with
    | ofNat n =>
      rw [word, asWord?]
      split <;> rfl
    | negSucc n => rfl
  all_goals intros; rfl

theorem optionally_toJson {read : Typed α} {read' : Toml → Option α} (hf : t.IsFinite)
    (h : (read t.toJson).toOption = read' t) :
    (optionally read t.toJson).toOption = (read' t).map some := by
  rw [← h, ← toOption_map]
  revert hf
  apply toJson_cases
    (motive := fun t j ↦ t.IsFinite → (optionally read j).toOption = ((read j).map some).toOption)
  case missing => exact fun x hx hf ↦ absurd hf hx
  all_goals intros; rfl

theorem texts_toJson (t : Toml) : (texts t.toJson).toOption = t.asStrings? := by
  apply toJson_cases (motive := fun t j ↦ (texts j).toOption = t.asStrings?)
  case array =>
    intro es
    rw [texts, asStrings?, toOption_mapM, List.mapM_map]
    congr 1
    funext e
    exact text_toJson _ e
  all_goals intros; rfl

theorem policy_toJson : ¬ t.IsTable → (policy t.toJson).toOption = t.asPolicy? := by
  apply toJson_cases (motive := fun t j ↦ ¬ t.IsTable → (policy j).toOption = t.asPolicy?)
  case string =>
    intro s _
    rw [policy, asPolicy?, policyNamed]
    split <;> simp_all [Except.toOption]
  case table => exact fun entries ht ↦ absurd trivial ht
  all_goals intros; rfl

def entryWith {β γ : Type} (read : β → Option γ) (e : String × β) : Option (String × γ) :=
  (read e.2).map fun c ↦ (e.1, c)

theorem lookup_of_mapM {β γ : Type} {read : β → Option γ} {es : List (String × β)}
    {ds : List (String × γ)} (h : es.mapM (entryWith read) = some ds) :
    ds.map Prod.fst = es.map Prod.fst ∧ ∀ k, ds.lookup k = (es.lookup k).bind read := by
  induction es generalizing ds with
  | nil =>
    cases h
    exact ⟨rfl, fun _ ↦ rfl⟩
  | cons e es ih =>
    rw [List.mapM_cons] at h
    obtain ⟨d, hd, h⟩ := Option.bind_eq_some_iff.1 h
    obtain ⟨rest, hrest, h⟩ := Option.bind_eq_some_iff.1 h
    obtain ⟨c, hc, rfl⟩ := Option.map_eq_some_iff.1 hd
    obtain ⟨hnames, hlookup⟩ := ih hrest
    cases h
    constructor
    · rw [List.map_cons, List.map_cons, hnames]
    · intro k
      change Dictionary.get? _ k = (Dictionary.get? ((e.1, e.2) :: es) k).bind read
      rw [Dictionary.get?_cons, Dictionary.get?_cons]
      split
      · exact hc.symm
      · exact hlookup k

theorem mem_entriesToJson (hn : (entries.map Prod.fst).Nodup) {k : String} {j : Json} :
    (k, j) ∈ entriesToJson entries ↔ ∃ v, (k, v) ∈ entries ∧ v.toJson = j := by
  rw [← Dictionary.get?_eq_some_iff (sorted_entriesToJson entries).nodup]
  change (entriesToJson entries).lookup k = some j ↔ _
  rw [lookup_entriesToJson, Option.map_eq_some_iff]
  exact exists_congr fun v ↦ and_congr_left' (Dictionary.get?_eq_some_iff hn)

/-- Where no name stands twice, names may be put in order before or after their values are read. -/
theorem mapM_entriesToJson {β : Type} {read : Json → Option β} {read' : Toml → Option β}
    (hr : ∀ v : Toml, read v.toJson = read' v) (hn : (entries.map Prod.fst).Nodup) :
    (entriesToJson entries).mapM (entryWith read) =
      (entries.mapM (entryWith read')).map Dictionary.ofList := by
  have hs := sorted_entriesToJson entries
  -- Both lists hold the same entries, so either both are read or neither is.
  have hsome : (∃ ds, (entriesToJson entries).mapM (entryWith read) = some ds) ↔
      ∃ ds, entries.mapM (entryWith read') = some ds := by
    rw [exists_mapM_eq_some_iff, exists_mapM_eq_some_iff]
    constructor
    · intro h e he
      obtain ⟨b, hb⟩ := h (e.1, e.2.toJson) ((mem_entriesToJson hn).2 ⟨e.2, he, rfl⟩)
      rw [entryWith, hr] at hb
      exact ⟨b, hb⟩
    · intro h e he
      obtain ⟨v, hv, hj⟩ := (mem_entriesToJson hn).1 he
      obtain ⟨b, hb⟩ := h (e.1, v) hv
      rw [entryWith, ← hr, hj] at hb
      exact ⟨b, hb⟩
  cases hd : entries.mapM (entryWith read') with
  | none =>
    rw [hd] at hsome
    apply Option.eq_none_iff_forall_ne_some.2
    intro ds h
    obtain ⟨ds', h'⟩ := hsome.1 ⟨ds, h⟩
    cases h'
  | some ds =>
    obtain ⟨ds', hd'⟩ := hsome.2 ⟨ds, hd⟩
    obtain ⟨hnames, hlookup⟩ := lookup_of_mapM hd
    obtain ⟨hnames', hlookup'⟩ := lookup_of_mapM hd'
    rw [hd']
    apply congrArg some
    -- What is read has names in order on both sides, so it is settled by what they lead to.
    apply Dictionary.Sorted.ext _ (Dictionary.sorted_ofList ds)
    · intro k
      have hk : (Dictionary.keys ds).Nodup := by
        rw [Dictionary.keys, hnames]
        exact hn
      rw [Dictionary.get?_ofList, Dictionary.lookup_reverse_of_nodup hk]
      change ds'.lookup k = ds.lookup k
      rw [hlookup, hlookup', lookup_entriesToJson, Option.bind_map]
      congr 1
      funext v
      exact hr v
    · rw [Dictionary.Sorted, Dictionary.keys, hnames']
      exact hs

theorem textMap_toJson : t.NamesOnce → (textMap t.toJson).toOption = t.asStringMap? := by
  apply toJson_cases (motive := fun t j ↦ t.NamesOnce → (textMap j).toOption = t.asStringMap?)
  case table =>
    intro entries hn
    have hread : (entriesToJson entries).mapM (entryWith fun j ↦ (text "a string" j).toOption) =
        (entries.mapM (entryWith asString?)).map Dictionary.ofList :=
      mapM_entriesToJson (text_toJson "a string") hn
    rw [textMap, toOption_mapM]
    simp only [toOption_map]
    exact hread.trans (Option.map_eq_bind ..)
  all_goals intros; rfl

theorem member_entriesToJson {read : Typed α} {read' : Toml → Option α} (default : α)
    (h : ∀ v, entries.lookup name = some v → (read v.toJson).toOption = read' v) :
    (member name read default (entriesToJson entries)).toOption =
      entry name read' default entries := by
  rw [member, entry, lookup_entriesToJson]
  cases hv : entries.lookup name with
  | none => rfl
  | some v => exact h v hv

theorem optional_entriesToJson {read : Typed α} {read' : Toml → Option α}
    (hf : t.Everywhere IsFinite) (he : t.asTable? = some entries)
    (h : ∀ v, (read v.toJson).toOption = read' v) :
    (member name (optionally read) none (entriesToJson entries)).toOption =
      entry name (fun v ↦ (read' v).map some) none entries := by
  apply member_entriesToJson
  intro v hv
  have hfinite := finite_entries hf he _ (Dictionary.mem_of_get? hv)
  exact optionally_toJson hfinite.self (h v)

theorem group_toJson {readGroup : Typed α} {ofEntries : List (String × Toml) → Option α}
    (ofElements : List Toml → Option α) (ha : ¬ t.IsArray)
    (hentries : ∀ entries, t.asTable? = some entries →
      (readGroup (.obj (entriesToJson entries))).toOption = ofEntries entries)
    (hscalar : ∀ j : Json, j.IsScalar → (readGroup j).toOption = none) :
    (readGroup t.toJson).toOption = asGroup? ofEntries ofElements t := by
  cases ht : t.asTable? with
  | some entries =>
    rw [toJson_of_asTable? ht, hentries entries ht]
    cases t with
    | table _ | dateTime _ =>
      cases ht
      rfl
    | _ => cases ht
  | none =>
    revert ha ht
    apply toJson_cases (motive := fun t j ↦ ¬ t.IsArray → t.asTable? = none →
      (readGroup j).toOption = asGroup? ofEntries ofElements t)
    case array => exact fun es ha _ ↦ absurd trivial ha
    case table | dateTime => nofun
    all_goals
      intros
      apply hscalar
      trivial

end Config

open Config Toml

section

variable {t : Toml} (hf : t.Everywhere IsFinite) (ha : ¬ t.IsArray)
include hf ha

theorem FilterConfig.ofJson_toJson : (ofJson t.toJson).toOption = ofToml? t := by
  apply group_toJson _ ha
  · intro entries he
    simp only [ofJson, toOption_bind]
    rw [member_entriesToJson false fun v _ ↦ bool_toJson v,
      member_entriesToJson [] fun v _ ↦ texts_toJson v,
      optional_entriesToJson hf he fun v ↦ text_toJson "a string" v,
      member_entriesToJson false fun v _ ↦ bool_toJson v]
    -- What is left are the same four values, bound in another order.
    cases entry "exact" asBool? false entries <;> cases entry "exclude" asStrings? [] entries <;>
      cases entry "pattern" (fun v ↦ v.asString?.map some) none entries <;>
      cases entry "regex" asBool? false entries <;> rfl
  · intro j hj
    cases j with
    | arr _ | obj _ => exact hj.elim
    | _ => rfl

theorem RunConfig.ofJson_toJson : (ofJson t.toJson).toOption = ofToml? t := by
  apply group_toJson _ ha
  · intro entries he
    simp only [ofJson, toOption_bind]
    rw [optional_entriesToJson hf he fun v ↦ word_toJson "u64" v]
    rfl
  · intro j hj
    cases j with
    | arr _ | obj _ => exact hj.elim
    | _ => rfl

theorem ReportConfig.ofJson_toJson (hn : ∀ v ∈ t.child? "show-notes", ¬ v.IsTable) :
    (ofJson t.toJson).toOption = ofToml? t := by
  apply group_toJson _ ha
  · intro entries he
    have hpolicy : ∀ v, entries.lookup "show-notes" = some v →
        (policy v.toJson).toOption = v.asPolicy? := by
      intro v hv
      apply policy_toJson
      apply hn
      rw [child?, he]
      exact hv
    simp only [ofJson, toOption_bind]
    rw [optional_entriesToJson hf he fun v ↦ text_toJson "path string" v,
      member_entriesToJson .onFailure hpolicy]
    cases entry "json" (fun v ↦ v.asString?.map some) none entries <;>
      cases entry "show-notes" asPolicy? .onFailure entries <;> rfl
  · intro j hj
    cases j with
    | arr _ | obj _ => exact hj.elim
    | _ => rfl

theorem DeviceConfig.ofJson_toJson : (ofJson t.toJson).toOption = ofToml? t := by
  apply group_toJson _ ha
  · intro entries he
    simp only [ofJson, toOption_bind]
    rw [member_entriesToJson true fun v _ ↦ bool_toJson v,
      member_entriesToJson true fun v _ ↦ bool_toJson v,
      member_entriesToJson 256 fun v _ ↦ word_toJson "usize" v,
      optional_entriesToJson hf he fun v ↦ word_toJson "usize" v,
      member_entriesToJson 0 fun v _ ↦ word_toJson "usize" v]
    cases entry "atomic64" asBool? true entries <;> cases entry "fp64" asBool? true entries <;>
      cases entry "max-work-group-size" asWord? 256 entries <;>
      cases entry "sub-group-size" (fun v ↦ v.asWord?.map some) none entries <;>
      cases entry "threads" asWord? 0 entries <;> rfl
  · intro j hj
    cases j with
    | arr _ | obj _ => exact hj.elim
    | _ => rfl

end

namespace Config

/-- The document has no number that JSON lacks, and writes groups of settings as tables and the
policy for notes as its name. -/
structure Plain (t : Toml) : Prop where
  finite : t.Everywhere IsFinite
  groups : ∀ name ∈ ["filter", "run", "report", "device"], ∀ v ∈ t.child? name, ¬ v.IsArray
  notes : ∀ report ∈ t.child? "report", ∀ v ∈ report.child? "show-notes", ¬ v.IsTable

theorem ofJson_toJson {entries : List (String × Toml)} (hn : (table entries).Unambiguous)
    (hp : Plain (table entries)) :
    (ofJson (table entries).toJson).toOption = ofToml? (table entries) := by
  have he : (table entries).asTable? = some entries := rfl
  have hfinite : ∀ {name v}, entries.lookup name = some v → v.Everywhere IsFinite :=
    fun hv ↦ finite_entries hp.finite he _ (Dictionary.mem_of_get? hv)
  have hdevice : ∀ v, entries.lookup "device" = some v →
      (DeviceConfig.ofJson v.toJson).toOption = DeviceConfig.ofToml? v :=
    fun v hv ↦ DeviceConfig.ofJson_toJson (hfinite hv) (hp.groups "device" (by decide) v hv)
  have hfilter : ∀ v, entries.lookup "filter" = some v →
      (FilterConfig.ofJson v.toJson).toOption = FilterConfig.ofToml? v :=
    fun v hv ↦ FilterConfig.ofJson_toJson (hfinite hv) (hp.groups "filter" (by decide) v hv)
  have hparameters : ∀ v, entries.lookup "parameters" = some v →
      (textMap v.toJson).toOption = v.asStringMap? := by
    intro v hv
    apply textMap_toJson
    exact ((everywhere_table.1 hn).2 _ (Dictionary.mem_of_get? hv)).self
  have hreport : ∀ v, entries.lookup "report" = some v →
      (ReportConfig.ofJson v.toJson).toOption = ReportConfig.ofToml? v :=
    fun v hv ↦ ReportConfig.ofJson_toJson (hfinite hv) (hp.groups "report" (by decide) v hv)
      (hp.notes v hv)
  have hrun : ∀ v, entries.lookup "run" = some v →
      (RunConfig.ofJson v.toJson).toOption = RunConfig.ofToml? v :=
    fun v hv ↦ RunConfig.ofJson_toJson (hfinite hv) (hp.groups "run" (by decide) v hv)
  rw [toJson_of_asTable? he]
  simp only [ofJson, ofToml?, he, toOption_bind, Option.bind_eq_bind, Option.bind_some]
  rw [member_entriesToJson {} hdevice, member_entriesToJson {} hfilter,
    member_entriesToJson [] hparameters, member_entriesToJson {} hreport,
    member_entriesToJson {} hrun, member_entriesToJson false fun v _ ↦ bool_toJson v]
  cases entry "device" DeviceConfig.ofToml? {} entries <;>
    cases entry "filter" FilterConfig.ofToml? {} entries <;>
    cases entry "parameters" asStringMap? [] entries <;>
    cases entry "report" ReportConfig.ofToml? {} entries <;>
    cases entry "run" RunConfig.ofToml? {} entries <;>
    cases entry "verbose" asBool? false entries <;> rfl

theorem readFile_of_unmarked {files : FileTree} {path text : String} {t : Toml} {readers : Readers}
    (hr : files.readText path = .ok text) (ht : Toml.ofText? text = some t)
    (hu : t.Everywhere Unmarked) : readFile files path readers = .ok t.toJson := by
  have hv : Toml.ofUntypedText? text = some t := by
    rw [ofUntypedText?, ht]
    exact untyped?_eq_self t hu
  simp only [readFile, hr, hv]

/-- A plain document in a file makes the settings that it makes on its own, or is refused in both
places. -/
theorem load_agrees_with_ofTomlText? {s : ConfigSource} {files : FileTree} {env : Environment}
    {path text : String} (hf : s.file? files = some path) (hr : files.readText path = .ok text)
    (hp : s.profile = none) (he : s.useEnvironment = false)
    (hplain : ∀ t, Toml.ofText? text = some t → Plain t ∧ t.Everywhere Unmarked) :
    (load s files env).toOption = (ofTomlText? text).map fun c ↦ (c, []) := by
  have hname : s.profile? env = none := by
    rw [ConfigSource.profile?, hp, he]
    rfl
  have hread : (readFile files path s.readers).toOption.bind (fun j ↦ (ofJson j).toOption) =
      ofTomlText? text := by
    rw [ofTomlText?]
    cases ht : Toml.ofText? text with
    | none =>
      simp only [readFile, hr, ofUntypedText?, ht]
      rfl
    | some t =>
      obtain ⟨hp, hu⟩ := hplain t ht
      obtain ⟨⟨entries, rfl⟩, hn⟩ := ofText?_eq_some ht
      rw [readFile_of_unmarked hr ht hu]
      exact ofJson_toJson hn hp
  rw [← hread, load_eq_map, hname, he, toOption_map, settled, hf]
  cases hj : readFile files path s.readers with
  | error e =>
    have hl : loadFile files path s.readers = .error e := by
      rw [loadFile, hj]
      rfl
    simp only [hl]
    rfl
  | ok j =>
    simp only [loadFile_of_readFile hj]
    change _ = (ofJson j).toOption.map fun c ↦ (c, [])
    cases ofJson j <;> rfl

def alone : ConfigSource := { file := some "ci", useEnvironment := false }

def plainText : String := "[device]\nthreads=2\n[parameters]\nn='4'\n[other]\nlist=[true]"

def plainDocument : Toml :=
  .table [("device", .table [("threads", .integer 2)]), ("parameters", .table [("n", .string "4")]),
    ("other", .table [("list", .array [.boolean true])])]

theorem ofText?_plainText : Toml.ofText? plainText = some plainDocument := by
  unfold plainText plainDocument
  cbv

theorem load_agrees_with_ofTomlText?_plain :
    Plain plainDocument ∧ plainDocument.Everywhere Unmarked ∧
    (load alone (CommandLine.lone plainText) []).toOption =
      some ({ device := { threads := 2 }, parameters := [("n", "4")] }, []) := by
  have hplain : Plain plainDocument := ⟨by decide, by decide, by decide⟩
  have hunmarked : plainDocument.Everywhere Unmarked := by decide
  refine ⟨hplain, hunmarked, ?_⟩
  rw [load_agrees_with_ofTomlText? rfl (CommandLine.readText_lone plainText) rfl rfl, ofTomlText?,
    ofText?_plainText]
  · rfl
  · intro t ht
    rw [ofText?_plainText] at ht
    cases ht
    exact ⟨hplain, hunmarked⟩

theorem load_alone_eq_error {text : String} (h : Toml.ofUntypedText? text = none) :
    load alone (CommandLine.lone text) [] = .error (.malformedToml "malformed document") := by
  have hr : readFile (CommandLine.lone text) "ci" alone.readers =
      .error (.malformedToml "malformed document") := by
    simp only [readFile, CommandLine.readText_lone, h]
    rfl
  have hf : alone.file? (CommandLine.lone text) = some "ci" := rfl
  rw [load_eq, hf]
  simp only [loadFile, hr]
  rfl

def markedText : String := "[parameters]\n'$__toml_private_datetime'='x'"

def markedDocument : Toml := .table [("parameters", .table [(dateTimeKey, .string "x")])]

theorem ofText?_markedText : Toml.ofText? markedText = some markedDocument := by
  unfold markedText markedDocument
  cbv

/-- A parameter of the reserved name passes for a date that is none. -/
theorem load_refuses_marked :
    Toml.ofText? markedText = some markedDocument ∧ Plain markedDocument ∧
    ofTomlText? markedText = some { parameters := [(dateTimeKey, "x")] } ∧
    load alone (CommandLine.lone markedText) [] =
      .error (.malformedToml "malformed document") := by
  refine ⟨ofText?_markedText, ⟨by decide, by decide, by decide⟩, ?_, ?_⟩
  · rw [ofTomlText?, ofText?_markedText]
    rfl
  · apply load_alone_eq_error
    rw [ofUntypedText?, ofText?_markedText]
    cbv

end Config

end Conformance
