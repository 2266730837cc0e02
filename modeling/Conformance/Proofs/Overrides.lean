import Conformance.Proofs.Numerals
import Conformance.Proofs.Variables

namespace Conformance.Environment

open Config (Leaf)

variable {α : Type} {env : Environment} {l : Leaf α} {key raw : String} {a : α} {c : Config}

def SaysWhether (raw : String) (b : Bool) : Prop :=
  String.ofList (raw.toList.map Char.toLower) ∈
    if b then ["1", "true", "yes"] else ["0", "false", "no"]

instance (raw : String) (b : Bool) : Decidable (SaysWhether raw b) :=
  inferInstanceAs (Decidable (_ ∈ _))

/-- The texts that are values of the settings which are checked. -/
def Says : {α : Type} → Leaf α → String → α → Prop
  | _, .timeout, raw, a => ∃ n, a = some n ∧ Numeral.Writes wordLimit raw.toList n
  | _, .threads, raw, n => Numeral.Writes wordLimit raw.toList n
  | _, .subGroupSize, raw, a => ∃ n, a = some n ∧ Numeral.Writes wordLimit raw.toList n
  | _, .showNotes, raw, p => raw = p.name
  | _, .fp64, raw, b => SaysWhether raw b
  | _, .atomic64, raw, b => SaysWhether raw b
  | _, .verbose, raw, b => SaysWhether raw b
  | _, _, _, _ => False

def White (c : Char) : Prop :=
  9 ≤ c.toNat ∧ c.toNat ≤ 13 ∨ 0x2000 ≤ c.toNat ∧ c.toNat ≤ 0x200a ∨
    c.toNat ∈ [0x20, 0x85, 0xa0, 0x1680, 0x2028, 0x2029, 0x202f, 0x205f, 0x3000]

instance (c : Char) : Decidable (White c) :=
  inferInstanceAs (Decidable (_ ∧ _ ∨ _ ∧ _ ∨ _ ∈ _))

/-- The text stands between white space, and neither starts nor ends with any. -/
def Trims (whole text : List Char) : Prop :=
  ∃ before after, whole = before ++ text ++ after ∧ (∀ c ∈ before, White c) ∧
    (∀ c ∈ after, White c) ∧ (∀ c ∈ text.head?, ¬ White c) ∧ ∀ c ∈ text.getLast?, ¬ White c

/-- The texts stand in the value with commas between them, and white space around them. Between two
commas there may also be nothing else. -/
def Lists (raw : String) (texts : List String) : Prop :=
  ∃ wholes trimmed : List (List Char), wholes ≠ [] ∧ (∀ whole ∈ wholes, ',' ∉ whole) ∧
    raw.toList = [','].intercalate wholes ∧ List.Forall₂ Trims wholes trimmed ∧
    texts = (trimmed.filter (· ≠ [])).map String.ofList

/-- What the text of a variable says about its setting. -/
def Denotes : {α : Type} → Leaf α → String → α → Prop
  | _, .pattern, raw, a => a = some raw
  | _, .exclude, raw, texts => Lists raw texts
  | _, l, raw, a => Says l raw a

/-- What the environment says about a setting, which is nothing where no variable or an empty one is
about it. -/
inductive Tells (env : Environment) (l : Leaf α) : Option α → Prop
  | silent : (∀ key, variableOf? l = some key → (env.get? (variableName key)).getD "" = "") →
      Tells env l none
  | said {key raw : String} {a : α} : variableOf? l = some key →
      env.get? (variableName key) = some raw → raw ≠ "" → Denotes l raw a → Tells env l (some a)

theorem isBlank_iff {c : Char} : Unicode.isBlank c = true ↔ White c := by
  simp only [Unicode.isBlank, Unicode.inRanges, Unicode.blanks, List.any_cons, List.any_nil,
    Bool.or_eq_true, Bool.and_eq_true, decide_eq_true_eq, White, List.mem_cons, List.not_mem_nil,
    Bool.false_eq_true, or_false]
  omega

theorem dropWhile_isBlank {before rest : List Char} (hb : ∀ c ∈ before, White c)
    (hr : ∀ c ∈ rest.head?, ¬ White c) : (before ++ rest).dropWhile Unicode.isBlank = rest := by
  rw [List.dropWhile_append_of_pos fun c hc ↦ isBlank_iff.2 (hb c hc)]
  cases rest with
  | nil => rfl
  | cons c rest => exact List.dropWhile_cons_of_neg fun h ↦ hr c rfl (isBlank_iff.1 h)

theorem trimmed_of_trims {whole text : List Char} (h : Trims whole text) :
    trimmed whole = text := by
  obtain ⟨before, after, rfl, hb, ha, hfirst, hlast⟩ := h
  cases text with
  | nil =>
    have hall : ∀ c ∈ before ++ [] ++ after, White c := by
      simpa [or_imp, forall_and] using ⟨hb, ha⟩
    have hnone : (before ++ [] ++ after).dropWhile Unicode.isBlank = [] := by
      rw [← List.append_nil (before ++ [] ++ after)]
      exact dropWhile_isBlank hall (by simp)
    rw [trimmed, hnone]
    rfl
  | cons c text =>
    have hend : ∀ c ∈ after.reverse, White c := by simpa using ha
    have hstart : (before ++ (c :: text ++ after)).dropWhile Unicode.isBlank = c :: text ++ after :=
      dropWhile_isBlank hb hfirst
    rw [trimmed, List.append_assoc, hstart, List.reverse_append, dropWhile_isBlank hend,
      List.reverse_reverse]
    rwa [List.head?_reverse]

theorem map_trimmed_of_trims {wholes texts : List (List Char)}
    (h : List.Forall₂ Trims wholes texts) : wholes.map trimmed = texts := by
  induction h with
  | nil => rfl
  | cons ht _ ih => rw [List.map_cons, trimmed_of_trims ht, ih]

theorem commaSeparated_of_lists {texts : List String} (h : Lists raw texts) :
    commaSeparated raw = texts := by
  obtain ⟨wholes, trims, hne, hcomma, hraw, htrims, rfl⟩ := h
  rw [commaSeparated, hraw, List.splitOn_intercalate ',' hcomma hne, map_trimmed_of_trims htrims]

theorem read?_eq_some_iff {n : Nat} :
    (read? raw : Option Nat) = some n ↔ Numeral.Writes wordLimit raw.toList n :=
  Numeral.readNat_eq_some_iff

theorem ofName?_eq_some_iff {p : NotesPolicy} :
    NotesPolicy.ofName? raw = some p ↔ raw = p.name := by
  constructor
  · intro h
    unfold NotesPolicy.ofName? at h
    split at h <;> cases h <;> rfl
  · rintro rfl
    cases p <;> rfl

theorem isTrue_iff : isTrue raw = true ↔ SaysWhether raw true := by
  simp [isTrue, SaysWhether, or_assoc]

theorem isTrue_of_saysWhether {b : Bool} (h : SaysWhether raw b) : isTrue raw = b := by
  cases b with
  | true => exact isTrue_iff.2 h
  | false =>
    simp only [SaysWhether, Bool.false_eq_true, if_false, List.mem_cons, List.not_mem_nil,
      or_false] at h
    rcases h with h | h | h <;> simp [isTrue, h]

inductive Checked : {α : Type} → Leaf α → String → Prop
  | timeout : Checked .timeout "TIMEOUT"
  | threads : Checked .threads "THREADS"
  | subGroupSize : Checked .subGroupSize "SUB_GROUP_SIZE"
  | showNotes : Checked .showNotes "SHOW_NOTES"

inductive Switch : Leaf Bool → String → Prop
  | fp64 : Switch .fp64 "FP64"
  | atomic64 : Switch .atomic64 "ATOMIC64"
  | verbose : Switch .verbose "VERBOSE"

theorem Checked.variableOf? (h : Checked l key) : variableOf? l = some key := by
  cases h <;> rfl

theorem Checked.ofText?_eq_some_iff (h : Checked l key) :
    ofText? l raw = some a ↔ Says l raw a := by
  cases h with
  | timeout | subGroupSize =>
    simp only [ofText?, Says, Option.map_eq_some_iff, read?_eq_some_iff]
    exact exists_congr fun n ↦ and_comm.trans (and_congr_left fun _ ↦ eq_comm)
  | threads => exact read?_eq_some_iff
  | showNotes => exact ofName?_eq_some_iff

theorem Switch.variableOf? {l : Leaf Bool} (h : Switch l key) :
    Environment.variableOf? l = some key := by
  cases h <;> rfl

theorem Switch.ofText?_eq {l : Leaf Bool} (h : Switch l key) :
    ofText? l raw = some (isTrue raw) := by
  cases h <;> rfl

theorem Switch.says_iff {l : Leaf Bool} (h : Switch l key) {b : Bool} :
    Says l raw b ↔ SaysWhether raw b := by
  cases h <;> rfl

theorem ofText?_of_denotes (h : Denotes l raw a) : ofText? l raw = some a := by
  cases l with
  | pattern => exact congrArg some (Eq.symm h)
  | exclude => exact congrArg some (commaSeparated_of_lists h)
  | timeout => exact Checked.timeout.ofText?_eq_some_iff.2 h
  | threads => exact Checked.threads.ofText?_eq_some_iff.2 h
  | subGroupSize => exact Checked.subGroupSize.ofText?_eq_some_iff.2 h
  | showNotes => exact Checked.showNotes.ofText?_eq_some_iff.2 h
  | fp64 | atomic64 | verbose => exact congrArg some (isTrue_of_saysWhether h)
  | _ => exact h.elim

theorem Says.ne_empty (h : Says l raw a) : raw ≠ "" := by
  rintro rfl
  have hnumber (n : Nat) : ¬ Numeral.Writes wordLimit "".toList n := by
    rw [← read?_eq_some_iff]
    exact nofun
  have hwhether (b : Bool) : ¬ SaysWhether "" b := by cases b <;> decide
  cases l with
  | timeout | subGroupSize =>
    obtain ⟨n, -, hn⟩ := h
    exact hnumber n hn
  | threads => exact hnumber a h
  | showNotes =>
    have hname : ∀ p : NotesPolicy, "" ≠ p.name := by
      intro p
      cases p <;> decide
    exact hname a h
  | fp64 | atomic64 | verbose => exact hwhether a h
  | _ => exact h

structure Follows (env : Environment) (l : Leaf α) (key : String) (c c' : Config) : Prop where
  accepted : ∀ raw a, env.get? (variableName key) = some raw → Says l raw a → l.get c' = a
  unset : (env.get? (variableName key)).getD "" = "" → l.get c' = l.get c

/-- Beyond that, the setting stays where its variable says anything else, and just then there is a
warning, which names the variable. -/
structure Overrides (env : Environment) (l : Leaf α) (key : String) (c c' : Config)
    (notices : List Notice) : Prop extends env.Follows l key c c' where
  ignored : ∀ raw, env.get? (variableName key) = some raw → raw ≠ "" → (∀ a, ¬ Says l raw a) →
    l.get c' = l.get c ∧ ∃ n rest, notices = [n] ∧ n.level = .warn ∧
      n.message = "ignoring " ++ variableName key ++ rest
  quiet : (∀ raw, env.get? (variableName key) = some raw → raw ≠ "" → ∃ a, Says l raw a) →
    notices = []

/-- Beyond that, the setting is off where its variable says anything else. -/
structure Decides (env : Environment) (l : Leaf Bool) (key : String) (c c' : Config) : Prop
    extends env.Follows l key c c' where
  unread : ∀ raw, env.get? (variableName key) = some raw → raw ≠ "" → (∀ a, ¬ Says l raw a) →
    l.get c' = false

theorem setting?_eq_some_iff :
    env.setting? key = some raw ↔ env.get? (variableName key) = some raw ∧ raw ≠ "" := by
  simp [setting?, Option.filter_eq_some_iff]

theorem setting?_of_unset (h : (env.get? (variableName key)).getD "" = "") :
    env.setting? key = none := by
  cases hg : env.get? (variableName key) with
  | none => simp [setting?, hg]
  | some raw =>
    rw [hg] at h
    simp [setting?, hg, show raw = "" from h]

theorem leaf?_of_tells {said : Option α} (h : env.Tells l said) : env.leaf? l = said := by
  cases h with
  | silent hu =>
    rw [leaf?]
    cases hv : variableOf? l with
    | none => rfl
    | some key => rw [Option.bind_some, setting?_of_unset (hu key hv), Option.bind_none]
  | said hv hg hr hd =>
    rw [leaf?, hv, Option.bind_some, setting?_eq_some_iff.2 ⟨hg, hr⟩, Option.bind_some,
      ofText?_of_denotes hd]

theorem get_applyTo_of_text (hv : variableOf? l = some key) (hs : env.setting? key = some raw)
    (c : Config) : l.get (env.applyTo c).1 = (ofText? l raw).getD (l.get c) := by
  rw [get_applyTo, leaf?, hv, Option.bind_some, hs, Option.bind_some]

theorem follows (hv : variableOf? l = some key)
    (hs : ∀ raw a, Says l raw a → ofText? l raw = some a) (c : Config) :
    env.Follows l key c (env.applyTo c).1 where
  accepted raw a hg ha := by
    rw [get_applyTo_of_text hv (setting?_eq_some_iff.2 ⟨hg, ha.ne_empty⟩), hs raw a ha]
    rfl
  unset hu := by
    rw [get_applyTo, leaf?, hv, Option.bind_some, setting?_of_unset hu]
    rfl

def complaint (key raw : String) : Notice :=
  if key = "SHOW_NOTES" then
    ⟨.warn, speaker, "ignoring " ++ variableName "SHOW_NOTES" ++ ": " ++
      (HarnessError.invalidSetting "report.show-notes" raw).message, []⟩
  else invalidNotice key raw

theorem complaint_names (key raw : String) : ∃ rest, (complaint key raw).level = .warn ∧
    (complaint key raw).message = "ignoring " ++ variableName key ++ rest := by
  unfold complaint
  split
  · next hk =>
    subst hk
    exact ⟨_, rfl, String.append_assoc⟩
  · exact ⟨"=" ++ raw ++ ": not a valid value", rfl, by simp [invalidNotice, String.append_assoc]⟩

def about (env : Environment) (l : Leaf α) (key : String) : List Notice :=
  match env.setting? key with
  | none => []
  | some raw => if (ofText? l raw).isSome then [] else [complaint key raw]

theorem Checked.overrides (h : Checked l key) (c : Config) :
    env.Overrides l key c (env.applyTo c).1 (env.about l key) where
  toFollows := follows h.variableOf? (fun _ _ ↦ h.ofText?_eq_some_iff.2) c
  ignored raw hg hr hn := by
    have hs : env.setting? key = some raw := setting?_eq_some_iff.2 ⟨hg, hr⟩
    have ho : ofText? l raw = none := by
      rw [Option.eq_none_iff_forall_ne_some]
      exact fun a ha ↦ hn a (h.ofText?_eq_some_iff.1 ha)
    refine ⟨?_, complaint key raw, ?_⟩
    · rw [get_applyTo_of_text h.variableOf? hs, ho]
      rfl
    · obtain ⟨rest, hl, hm⟩ := complaint_names key raw
      refine ⟨rest, ?_, hl, hm⟩
      simp [about, hs, ho]
  quiet hq := by
    unfold about
    split
    · rfl
    · next raw hs =>
      obtain ⟨hg, hr⟩ := setting?_eq_some_iff.1 hs
      obtain ⟨a, ha⟩ := hq raw hg hr
      rw [h.ofText?_eq_some_iff.2 ha]
      rfl

theorem Switch.decides {l : Leaf Bool} (h : Switch l key) (c : Config) :
    env.Decides l key c (env.applyTo c).1 where
  toFollows := follows h.variableOf? (fun raw b hb ↦ by
    rw [h.ofText?_eq, isTrue_of_saysWhether (h.says_iff.1 hb)]) c
  unread raw hg hr hn := by
    have ht : isTrue raw = false := by
      rw [← Bool.not_eq_true, isTrue_iff, ← h.says_iff]
      exact hn true
    rw [get_applyTo_of_text h.variableOf? (setting?_eq_some_iff.2 ⟨hg, hr⟩), h.ofText?_eq, ht]
    rfl

def noticesOf (env : Environment) (e : String × Change) : List Notice :=
  match env.setting? e.1 with
  | none => []
  | some raw => (e.2 raw {}).2

theorem changed_snd {cs : List (String × Change)}
    (h : ∀ e ∈ cs, ∀ raw c, (e.2 raw c).2 = (e.2 raw {}).2) (c : Config) :
    (env.changed cs c).2 = cs.flatMap env.noticesOf := by
  induction cs generalizing c with
  | nil => rfl
  | cons e cs ih =>
    obtain ⟨he, hcs⟩ := List.forall_mem_cons.1 h
    rw [changed, List.flatMap_cons, noticesOf]
    cases env.setting? e.1 with
    | none => exact ih hcs c
    | some raw =>
      change (e.2 raw c).2 ++ (env.changed cs (e.2 raw c).1).2 = _
      rw [he, ih hcs]

theorem ifNumber_snd (key : String) (set : Nat → Config → Config) (raw : String) (c : Config) :
    (ifNumber key set raw c).2 =
      if (read? raw : Option Nat).isSome then [] else [invalidNotice key raw] := by
  unfold ifNumber
  cases (read? raw : Option Nat) <;> rfl

theorem setPolicy_snd (raw : String) (c : Config) : (setPolicy raw c).2 =
    if (NotesPolicy.ofName? raw).isSome then [] else [complaint "SHOW_NOTES" raw] := by
  unfold setPolicy NotesPolicy.ofText
  cases NotesPolicy.ofName? raw <;> rfl

theorem change_snd {e : String × Change} (he : e ∈ changes) (raw : String) (c : Config) :
    (e.2 raw c).2 = (e.2 raw {}).2 := by
  simp only [changes, List.mem_cons, List.not_mem_nil, or_false] at he
  obtain rfl | rfl | rfl | rfl | rfl | rfl | rfl | rfl | rfl := he
  case inr.inr.inl | inr.inr.inr.inl | inr.inr.inr.inr.inl => rw [ifNumber_snd, ifNumber_snd]
  case inr.inr.inr.inr.inr.inr.inr.inl => rw [setPolicy_snd, setPolicy_snd]
  all_goals rfl

theorem noticesOf_always (key : String) (set : String → Config → Config) :
    env.noticesOf (key, always set) = [] := by
  unfold noticesOf
  split <;> rfl

theorem noticesOf_number {l : Leaf α} (hk : key ≠ "SHOW_NOTES")
    (hl : ∀ raw, (ofText? l raw).isSome = (read? raw : Option Nat).isSome)
    (set : Nat → Config → Config) : env.noticesOf (key, ifNumber key set) = env.about l key := by
  unfold noticesOf about
  cases env.setting? key with
  | none => rfl
  | some raw => simp only [ifNumber_snd, hl, complaint, if_neg hk]

theorem noticesOf_policy :
    env.noticesOf ("SHOW_NOTES", setPolicy) = env.about .showNotes "SHOW_NOTES" := by
  unfold noticesOf about
  cases env.setting? "SHOW_NOTES" with
  | none => rfl
  | some raw => exact setPolicy_snd raw {}

theorem applyTo_snd (env : Environment) (c : Config) : (env.applyTo c).2 =
    env.about .timeout "TIMEOUT" ++ env.about .threads "THREADS" ++
      env.about .subGroupSize "SUB_GROUP_SIZE" ++ env.about .showNotes "SHOW_NOTES" := by
  have h : (env.applyTo c).2 = (env.changed changes c).2 := rfl
  have ht (raw : String) : (ofText? .timeout raw).isSome = (read? raw : Option Nat).isSome :=
    Option.isSome_map
  have hn (raw : String) : (ofText? .threads raw).isSome = (read? raw : Option Nat).isSome := rfl
  have hs (raw : String) : (ofText? .subGroupSize raw).isSome = (read? raw : Option Nat).isSome :=
    Option.isSome_map
  rw [h, changed_snd fun e ↦ change_snd]
  simp only [changes, List.flatMap_cons, List.flatMap_nil, noticesOf_always, noticesOf_policy,
    noticesOf_number (by decide : "TIMEOUT" ≠ "SHOW_NOTES") ht,
    noticesOf_number (by decide : "THREADS" ≠ "SHOW_NOTES") hn,
    noticesOf_number (by decide : "SUB_GROUP_SIZE" ≠ "SHOW_NOTES") hs, List.nil_append,
    List.append_nil, List.append_assoc]

/-- Each checked setting follows its variable where that says a value, and otherwise stays as it
was; a text that is no value gets one warning. A switch also follows its variable, but any text that
is none of its words turns it off, and nothing is said about that: all that is said is about the
checked settings. -/
theorem applyTo_overrides (env : Environment) (c : Config) :
    (∀ (α : Type) (l : Leaf α) key, Checked l key →
      env.Overrides l key c (env.applyTo c).1 (env.about l key)) ∧
    (∀ (l : Leaf Bool) key, Switch l key → env.Decides l key c (env.applyTo c).1) ∧
    (env.applyTo c).2 = env.about .timeout "TIMEOUT" ++ env.about .threads "THREADS" ++
      env.about .subGroupSize "SUB_GROUP_SIZE" ++ env.about .showNotes "SHOW_NOTES" :=
  ⟨fun _ _ _ h ↦ h.overrides c, fun _ _ h ↦ h.decides c, applyTo_snd env c⟩

def mixed : Environment :=
  [("CTS_HARNESS_ATOMIC64", "No"), ("CTS_HARNESS_THREADS", "many"), ("CTS_HARNESS_TIMEOUT", "+007"),
    ("CTS_HARNESS_VERBOSE", "perhaps")]

theorem applyTo_overrides_mixed : ∃ notice rest,
    (mixed.applyTo { verbose := true }).2 = [notice] ∧ notice.level = .warn ∧
    notice.message = "ignoring CTS_HARNESS_THREADS" ++ rest ∧
    (mixed.applyTo { verbose := true }).1.run.timeout = some 7 ∧
    (mixed.applyTo { verbose := true }).1.device.threads = 0 ∧
    (mixed.applyTo { verbose := true }).1.device.atomic64 = false ∧
    (mixed.applyTo { verbose := true }).1.verbose = false := by
  obtain ⟨hc, hs, hn⟩ := applyTo_overrides mixed { verbose := true }
  have seven : Says .timeout "+007" (some 7) := ⟨7, rfl, read?_eq_some_iff.1 rfl⟩
  have many (n : Nat) : ¬ Says .threads "many" n := fun h ↦ nomatch read?_eq_some_iff.2 h
  have no : SaysWhether "No" false := by decide
  have perhaps (b : Bool) : ¬ SaysWhether "perhaps" b := by cases b <;> decide
  have ht := hc _ _ _ .timeout
  obtain ⟨hthreads, notice, rest, hnotice, hl, hm⟩ :=
    (hc _ _ _ .threads).ignored "many" rfl (by decide) many
  refine ⟨notice, rest, ?_, hl, hm, ht.accepted "+007" (some 7) rfl seven, hthreads,
    (hs _ _ .atomic64).accepted "No" false rfl no,
    (hs _ _ .verbose).unread "perhaps" rfl (by decide) perhaps⟩
  have hquiet : mixed.about .timeout "TIMEOUT" = [] := by
    refine ht.quiet fun raw hg _ ↦ ⟨some 7, ?_⟩
    cases hg
    exact seven
  rw [hn, hquiet, hnotice]
  rfl

def wavering : Environment := [("CTS_HARNESS_FP64", "maybe")]

/-- It is turned off without a word, where it should have stayed on with a warning. -/
theorem applyTo_wavering :
    (wavering.applyTo {}).1.device.fp64 = false ∧ (wavering.applyTo {}).2 = [] ∧
    ¬ ∃ notices, wavering.Overrides .fp64 "FP64" {} (wavering.applyTo {}).1 notices := by
  refine ⟨rfl, rfl, ?_⟩
  rintro ⟨notices, h⟩
  have maybe (b : Bool) : ¬ Says .fp64 "maybe" b := by
    change ¬ SaysWhether "maybe" b
    cases b <;> decide
  have hkept := (h.ignored "maybe" rfl (by decide) maybe).1
  exact absurd hkept (by decide)

end Conformance.Environment
