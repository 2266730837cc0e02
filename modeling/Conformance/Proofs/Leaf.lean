import Conformance.Config.Loading
import Conformance.Proofs.Fallible
import Conformance.Proofs.Overlay

namespace Conformance

namespace Json

def part? (step : String × Nat) : Json → Option Json
  | .obj ms => ms.lookup step.1
  | .arr es => es[step.2]?
  | _ => none

def at? : List (String × Nat) → Json → Option Json
  | [], j => some j
  | step :: path, j => (j.part? step).bind (at? path)

theorem at?_one (step : String × Nat) (j : Json) : j.at? [step] = j.part? step :=
  Option.bind_fun_some (j.part? step)

theorem at?_two (first second : String × Nat) (j : Json) :
    j.at? [first, second] = (j.part? first).bind (part? second) := by
  rw [at?]
  congr 1
  funext inner
  exact at?_one second inner

def IsObject : Json → Prop
  | .obj _ => True
  | _ => False

instance : DecidablePred IsObject := fun j ↦
  match j with
  | .obj _ => .isTrue trivial
  | .null | .bool _ | .int _ | .float _ | .str _ | .arr _ => .isFalse id

theorem IsObject.eq_obj {j : Json} (h : j.IsObject) : ∃ ms, j = .obj ms := by
  cases j with
  | obj ms => exact ⟨ms, rfl⟩
  | _ => exact h.elim

end Json

namespace Config

variable {α β : Type} {j : Json}

def readAt (read : Typed α) (default : α) : Option Json → Except Mismatch α
  | none => .ok default
  | some j => read j

theorem readAt_of_requiredElement {index : Nat} {wanted : String} {read : Typed α} {a : α}
    {es : List Json} (default : α) (h : requiredElement index wanted read es = .ok a) :
    readAt read default es[index]? = .ok a := by
  unfold requiredElement at h
  cases he : es[index]? with
  | none =>
    rw [he] at h
    cases h
  | some j =>
    rw [he] at h
    exact h

theorem readAt_bind (get : β → α) {readGroup : Typed β} {read : Typed α} {g₀ g : β}
    {o : Option Json} {inner : Json → Option Json} (ho : readAt readGroup g₀ o = .ok g)
    (h : ∀ j g, readGroup j = .ok g → readAt read (get g₀) (inner j) = .ok (get g)) :
    readAt read (get g₀) (o.bind inner) = .ok (get g) := by
  cases o with
  | none =>
    cases ho
    rfl
  | some j => exact h j g ho

inductive Leaf : Type → Type
  | pattern : Leaf (Option String)
  | exact : Leaf Bool
  | regex : Leaf Bool
  | exclude : Leaf (List String)
  | timeout : Leaf (Option Nat)
  | showNotes : Leaf NotesPolicy
  | json : Leaf (Option String)
  | threads : Leaf Nat
  | maxWorkGroupSize : Leaf Nat
  | subGroupSize : Leaf (Option Nat)
  | fp64 : Leaf Bool
  | atomic64 : Leaf Bool
  | verbose : Leaf Bool

namespace Leaf

def path : Leaf α → List (String × Nat)
  | pattern => [("filter", 0), ("pattern", 0)]
  | exact => [("filter", 0), ("exact", 1)]
  | regex => [("filter", 0), ("regex", 2)]
  | exclude => [("filter", 0), ("exclude", 3)]
  | timeout => [("run", 1), ("timeout", 0)]
  | showNotes => [("report", 2), ("show-notes", 0)]
  | json => [("report", 2), ("json", 1)]
  | threads => [("device", 3), ("threads", 0)]
  | maxWorkGroupSize => [("device", 3), ("max-work-group-size", 1)]
  | subGroupSize => [("device", 3), ("sub-group-size", 2)]
  | fp64 => [("device", 3), ("fp64", 3)]
  | atomic64 => [("device", 3), ("atomic64", 4)]
  | verbose => [("verbose", 5)]

def read : {α : Type} → Leaf α → Typed α
  | _, pattern => optionally (text "a string")
  | _, exact => bool
  | _, regex => bool
  | _, exclude => texts
  | _, timeout => optionally (word "u64")
  | _, showNotes => policy
  | _, json => optionally (text "path string")
  | _, threads => word "usize"
  | _, maxWorkGroupSize => word "usize"
  | _, subGroupSize => optionally (word "usize")
  | _, fp64 => bool
  | _, atomic64 => bool
  | _, verbose => bool

def write : {α : Type} → Leaf α → α → Json
  | _, pattern, a => Json.optional .str a
  | _, exact, a => .bool a
  | _, regex, a => .bool a
  | _, exclude, a => .arr (a.map .str)
  | _, timeout, a => Json.optional Json.nat a
  | _, showNotes, a => .str a.name
  | _, json, a => Json.optional .str a
  | _, threads, a => Json.nat a
  | _, maxWorkGroupSize, a => Json.nat a
  | _, subGroupSize, a => Json.optional Json.nat a
  | _, fp64, a => .bool a
  | _, atomic64, a => .bool a
  | _, verbose, a => .bool a

def get : {α : Type} → Leaf α → Config → α
  | _, pattern, c => c.filter.pattern
  | _, exact, c => c.filter.exact
  | _, regex, c => c.filter.regex
  | _, exclude, c => c.filter.exclude
  | _, timeout, c => c.run.timeout
  | _, showNotes, c => c.report.showNotes
  | _, json, c => c.report.json
  | _, threads, c => c.device.threads
  | _, maxWorkGroupSize, c => c.device.maxWorkGroupSize
  | _, subGroupSize, c => c.device.subGroupSize
  | _, fp64, c => c.device.fp64
  | _, atomic64, c => c.device.atomic64
  | _, verbose, c => c.verbose

def Optionally (denotes : Json → α → Prop) (j : Json) (o : Option α) : Prop :=
  j = .null ∧ o = none ∨ ∃ a, o = some a ∧ denotes j a

def IsText (j : Json) (s : String) : Prop := j = .str s

def IsWord (j : Json) (n : Nat) : Prop := j = .int n ∧ n < wordLimit

/-- Which part of a document stands for which value of a setting. -/
def Denotes : {α : Type} → Leaf α → Json → α → Prop
  | _, pattern, j, a => Optionally IsText j a
  | _, exact, j, b => j = .bool b
  | _, regex, j, b => j = .bool b
  | _, exclude, j, texts => j = .arr (texts.map .str)
  | _, timeout, j, a => Optionally IsWord j a
  | _, showNotes, j, p => j = .str p.name ∨ j = .obj [(p.name, .null)]
  | _, json, j, a => Optionally IsText j a
  | _, threads, j, n => IsWord j n
  | _, maxWorkGroupSize, j, n => IsWord j n
  | _, subGroupSize, j, a => Optionally IsWord j a
  | _, fp64, j, b => j = .bool b
  | _, atomic64, j, b => j = .bool b
  | _, verbose, j, b => j = .bool b

def readFrom (l : Leaf α) (j : Json) : Except Mismatch α := readAt l.read (l.get {}) (j.at? l.path)

end Leaf

end Config

open Config

variable {j : Json}

theorem FilterConfig.ofJson_eq_ok {f : FilterConfig} (h : FilterConfig.ofJson j = .ok f) :
    readAt Leaf.pattern.read none (j.part? ("pattern", 0)) = .ok f.pattern ∧
    readAt bool false (j.part? ("exact", 1)) = .ok f.exact ∧
    readAt bool false (j.part? ("regex", 2)) = .ok f.regex ∧
    readAt texts [] (j.part? ("exclude", 3)) = .ok f.exclude := by
  cases j with
  | obj ms =>
    simp only [FilterConfig.ofJson, bind_eq_ok_iff] at h
    obtain ⟨exact, he, exclude, hx, pattern, hp, regex, hr, hf⟩ := h
    cases hf
    exact ⟨hp, he, hr, hx⟩
  | arr es =>
    simp only [FilterConfig.ofJson, bind_eq_ok_iff] at h
    obtain ⟨pattern, hp, exact, he, regex, hr, exclude, hx, -, -, hf⟩ := h
    cases hf
    exact ⟨readAt_of_requiredElement none hp, he, hr, hx⟩
  | _ => cases h

theorem RunConfig.ofJson_eq_ok {r : RunConfig} (h : RunConfig.ofJson j = .ok r) :
    readAt Leaf.timeout.read none (j.part? ("timeout", 0)) = .ok r.timeout := by
  cases j with
  | obj ms =>
    simp only [RunConfig.ofJson, bind_eq_ok_iff] at h
    obtain ⟨timeout, ht, hr⟩ := h
    cases hr
    exact ht
  | arr es =>
    simp only [RunConfig.ofJson, bind_eq_ok_iff] at h
    obtain ⟨timeout, ht, -, -, hr⟩ := h
    cases hr
    exact readAt_of_requiredElement none ht
  | _ => cases h

theorem ReportConfig.ofJson_eq_ok {r : ReportConfig} (h : ReportConfig.ofJson j = .ok r) :
    readAt policy .onFailure (j.part? ("show-notes", 0)) = .ok r.showNotes ∧
    readAt Leaf.json.read none (j.part? ("json", 1)) = .ok r.json := by
  cases j with
  | obj ms =>
    simp only [ReportConfig.ofJson, bind_eq_ok_iff] at h
    obtain ⟨json, hj, showNotes, hs, hr⟩ := h
    cases hr
    exact ⟨hs, hj⟩
  | arr es =>
    simp only [ReportConfig.ofJson, bind_eq_ok_iff] at h
    obtain ⟨showNotes, hs, json, hj, -, -, hr⟩ := h
    cases hr
    exact ⟨hs, readAt_of_requiredElement none hj⟩
  | _ => cases h

theorem DeviceConfig.ofJson_eq_ok {d : DeviceConfig} (h : DeviceConfig.ofJson j = .ok d) :
    readAt (word "usize") 0 (j.part? ("threads", 0)) = .ok d.threads ∧
    readAt (word "usize") 256 (j.part? ("max-work-group-size", 1)) = .ok d.maxWorkGroupSize ∧
    readAt Leaf.subGroupSize.read none (j.part? ("sub-group-size", 2)) = .ok d.subGroupSize ∧
    readAt bool true (j.part? ("fp64", 3)) = .ok d.fp64 ∧
    readAt bool true (j.part? ("atomic64", 4)) = .ok d.atomic64 := by
  cases j with
  | obj ms =>
    simp only [DeviceConfig.ofJson, bind_eq_ok_iff] at h
    obtain ⟨atomic64, ha, fp64, hf, most, hm, width, hw, threads, ht, hd⟩ := h
    cases hd
    exact ⟨ht, hm, hw, hf, ha⟩
  | arr es =>
    simp only [DeviceConfig.ofJson, bind_eq_ok_iff] at h
    obtain ⟨threads, ht, most, hm, width, hw, fp64, hf, atomic64, ha, -, -, hd⟩ := h
    cases hd
    exact ⟨ht, hm, hw, hf, ha⟩
  | _ => cases h

namespace Config

theorem ofJson_eq_ok {c : Config} (h : ofJson j = .ok c) :
    readAt FilterConfig.ofJson {} (j.part? ("filter", 0)) = .ok c.filter ∧
    readAt RunConfig.ofJson {} (j.part? ("run", 1)) = .ok c.run ∧
    readAt ReportConfig.ofJson {} (j.part? ("report", 2)) = .ok c.report ∧
    readAt DeviceConfig.ofJson {} (j.part? ("device", 3)) = .ok c.device ∧
    readAt textMap [] (j.part? ("parameters", 4)) = .ok c.parameters ∧
    readAt bool false (j.part? ("verbose", 5)) = .ok c.verbose := by
  cases j with
  | obj ms =>
    simp only [ofJson, bind_eq_ok_iff] at h
    obtain ⟨device, hd, filter, hf, parameters, hp, report, hr, run, hu, verbose, hv, hc⟩ := h
    cases hc
    exact ⟨hf, hu, hr, hd, hp, hv⟩
  | arr es =>
    simp only [ofJson, bind_eq_ok_iff] at h
    obtain ⟨filter, hf, run, hu, report, hr, device, hd, parameters, hp, verbose, hv, -, -, hc⟩ := h
    cases hc
    exact ⟨hf, hu, hr, hd, hp, hv⟩
  | _ => cases h

namespace Leaf

variable {α : Type} {c : Config}

/-- Settings that were read hold, at each leaf, what the value says there. -/
theorem readFrom_of_ofJson (l : Leaf α) (h : ofJson j = .ok c) : l.readFrom j = .ok (l.get c) := by
  obtain ⟨hf, hu, hr, hd, -, hv⟩ := ofJson_eq_ok h
  unfold readFrom
  cases l with
  | verbose => rwa [path, Json.at?_one]
  | pattern =>
    rw [path, Json.at?_two]
    exact readAt_bind FilterConfig.pattern hf fun _ _ h ↦ (FilterConfig.ofJson_eq_ok h).1
  | exact =>
    rw [path, Json.at?_two]
    exact readAt_bind FilterConfig.exact hf fun _ _ h ↦ (FilterConfig.ofJson_eq_ok h).2.1
  | regex =>
    rw [path, Json.at?_two]
    exact readAt_bind FilterConfig.regex hf fun _ _ h ↦ (FilterConfig.ofJson_eq_ok h).2.2.1
  | exclude =>
    rw [path, Json.at?_two]
    exact readAt_bind FilterConfig.exclude hf fun _ _ h ↦ (FilterConfig.ofJson_eq_ok h).2.2.2
  | timeout =>
    rw [path, Json.at?_two]
    exact readAt_bind RunConfig.timeout hu fun _ _ h ↦ RunConfig.ofJson_eq_ok h
  | showNotes =>
    rw [path, Json.at?_two]
    exact readAt_bind ReportConfig.showNotes hr fun _ _ h ↦ (ReportConfig.ofJson_eq_ok h).1
  | json =>
    rw [path, Json.at?_two]
    exact readAt_bind ReportConfig.json hr fun _ _ h ↦ (ReportConfig.ofJson_eq_ok h).2
  | threads =>
    rw [path, Json.at?_two]
    exact readAt_bind DeviceConfig.threads hd fun _ _ h ↦ (DeviceConfig.ofJson_eq_ok h).1
  | maxWorkGroupSize =>
    rw [path, Json.at?_two]
    exact readAt_bind DeviceConfig.maxWorkGroupSize hd fun _ _ h ↦ (DeviceConfig.ofJson_eq_ok h).2.1
  | subGroupSize =>
    rw [path, Json.at?_two]
    exact readAt_bind DeviceConfig.subGroupSize hd fun _ _ h ↦ (DeviceConfig.ofJson_eq_ok h).2.2.1
  | fp64 =>
    rw [path, Json.at?_two]
    exact readAt_bind DeviceConfig.fp64 hd fun _ _ h ↦ (DeviceConfig.ofJson_eq_ok h).2.2.2.1
  | atomic64 =>
    rw [path, Json.at?_two]
    exact readAt_bind DeviceConfig.atomic64 hd fun _ _ h ↦ (DeviceConfig.ofJson_eq_ok h).2.2.2.2

end Leaf

theorem texts_arr (es : List String) : texts (.arr (es.map .str)) = .ok es := by
  rw [texts]
  induction es with
  | nil => rfl
  | cons e es ih =>
    rw [List.map_cons, List.mapM_cons, ih]
    rfl

theorem policyNamed_name (p : NotesPolicy) : policyNamed p.name = .ok p := by
  cases p <;> rfl

theorem text_eq_ok {wanted s : String} (h : text wanted j = .ok s) : Leaf.IsText j s := by
  cases j <;> cases h
  rfl

theorem word_eq_ok {wanted : String} {n : Nat} (h : word wanted j = .ok n) : Leaf.IsWord j n := by
  unfold word at h
  split at h
  · split at h
    · next hn =>
      cases h
      exact ⟨rfl, hn⟩
    · cases h
  · cases h
  · cases h

theorem bool_eq_ok {b : Bool} (h : bool j = .ok b) : j = .bool b := by
  cases j <;> cases h
  rfl

theorem texts_eq_ok {ss : List String} (h : texts j = .ok ss) : j = .arr (ss.map .str) := by
  unfold texts at h
  split at h
  · next es =>
    congr 1
    induction es generalizing ss with
    | nil =>
      cases h
      rfl
    | cons e es ih =>
      rw [List.mapM_cons] at h
      simp only [bind_eq_ok_iff] at h
      obtain ⟨s, hs, rest, hr, hss⟩ := h
      cases hss
      rw [text_eq_ok hs, ih hr]
      rfl
  · cases h

theorem policyNamed_eq_ok {name : String} {p : NotesPolicy} (h : policyNamed name = .ok p) :
    name = p.name := by
  unfold policyNamed NotesPolicy.ofName? at h
  split at h
  · next hn =>
    cases h
    split at hn <;> cases hn <;> rfl
  · cases h

theorem policy_eq_ok {p : NotesPolicy} (h : policy j = .ok p) :
    j = .str p.name ∨ j = .obj [(p.name, .null)] := by
  unfold policy at h
  split at h
  · exact .inl (congrArg Json.str (policyNamed_eq_ok h))
  · next name j =>
    obtain ⟨p', hp, h⟩ := bind_eq_ok_iff.1 h
    cases j with
    | null =>
      cases h
      exact .inr (by rw [policyNamed_eq_ok hp])
    | _ => cases h
  · cases h
  · cases h

theorem optionally_eq_ok {read : Typed α} {denotes : Json → α → Prop} {o : Option α}
    (hd : ∀ a, read j = .ok a → denotes j a) (h : optionally read j = .ok o) :
    Leaf.Optionally denotes j o := by
  unfold optionally at h
  split at h
  · cases h
    exact .inl ⟨rfl, rfl⟩
  · obtain ⟨a, ha, rfl⟩ := map_eq_ok_iff.1 h
    exact .inr ⟨a, rfl, hd a ha⟩

theorem word_of_isWord {wanted : String} {n : Nat} (h : Leaf.IsWord j n) :
    word wanted j = .ok n := by
  obtain ⟨rfl, hn⟩ := h
  exact if_pos hn

theorem optionally_of_denotes {read : Typed α} {denotes : Json → α → Prop} {o : Option α}
    (hd : ∀ a, denotes j a → read j = .ok a ∧ j ≠ .null) (h : Leaf.Optionally denotes j o) :
    optionally read j = .ok o := by
  rcases h with ⟨rfl, rfl⟩ | ⟨a, rfl, ha⟩
  · rfl
  · obtain ⟨hr, hn⟩ := hd a ha
    unfold optionally
    split
    · exact absurd rfl hn
    · rw [hr]
      rfl

theorem Leaf.read_eq_ok_iff (l : Leaf α) {a : α} : l.read j = .ok a ↔ l.Denotes j a := by
  constructor
  · intro h
    cases l with
    | pattern | json => exact optionally_eq_ok (fun _ ↦ text_eq_ok) h
    | timeout | subGroupSize => exact optionally_eq_ok (fun _ ↦ word_eq_ok) h
    | threads | maxWorkGroupSize => exact word_eq_ok h
    | exclude => exact texts_eq_ok h
    | showNotes => exact policy_eq_ok h
    | _ => exact bool_eq_ok h
  · intro h
    cases l with
    | pattern | json =>
      refine optionally_of_denotes ?_ h
      rintro s rfl
      exact ⟨rfl, nofun⟩
    | timeout | subGroupSize =>
      refine optionally_of_denotes ?_ h
      rintro n hn
      refine ⟨word_of_isWord hn, ?_⟩
      rw [hn.1]
      exact nofun
    | threads | maxWorkGroupSize => exact word_of_isWord h
    | exclude =>
      obtain rfl : j = .arr (a.map .str) := h
      exact texts_arr a
    | showNotes =>
      rcases h with rfl | rfl
      · exact policyNamed_name a
      · exact congrArg (· >>= fun p ↦ pure p) (policyNamed_name a)
    | _ =>
      obtain rfl : j = .bool a := h
      rfl

theorem eq_of_word {wanted : String} {n m : Nat} (h : word wanted (Json.nat n) = .ok m) :
    m = n := by
  change (if n < wordLimit then .ok n else wrongType wanted (.int n)) = Except.ok m at h
  split at h <;> cases h
  rfl

theorem eq_of_optionally_word {wanted : String} {o o' : Option Nat}
    (h : optionally (word wanted) (Json.optional Json.nat o) = .ok o') : o' = o := by
  cases o with
  | none =>
    cases h
    rfl
  | some n =>
    change (word wanted (Json.nat n)).map some = .ok o' at h
    obtain ⟨m, hm, rfl⟩ := map_eq_ok_iff.1 h
    rw [eq_of_word hm]

theorem eq_of_optionally_text {wanted : String} {o o' : Option String}
    (h : optionally (text wanted) (Json.optional .str o) = .ok o') : o' = o := by
  cases o <;> cases h <;> rfl

namespace Leaf

variable {α : Type}

/-- What a leaf writes is read back, if it is read at all: a number has to fit a word. -/
theorem eq_of_read_write (l : Leaf α) {a b : α} (h : l.read (l.write a) = .ok b) : b = a := by
  cases l with
  | pattern | json => exact eq_of_optionally_text h
  | timeout | subGroupSize => exact eq_of_optionally_word h
  | threads | maxWorkGroupSize => exact eq_of_word h
  | exclude => exact (Except.ok.inj ((texts_arr a).symm.trans h)).symm
  | showNotes => exact (Except.ok.inj ((policyNamed_name a).symm.trans h)).symm
  | _ => exact (Except.ok.inj h).symm

theorem write_ne_obj (l : Leaf α) (a : α) (ms : List (String × Json)) : l.write a ≠ .obj ms := by
  cases l with
  | pattern | json | timeout | subGroupSize => cases a <;> nofun
  | _ => nofun

end Leaf

end Config

end Conformance
