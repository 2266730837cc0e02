import Conformance.Proofs.Leaf

namespace Conformance

namespace Json

variable {a b j v : Json} {k : String}

inductive Proper : Json → Prop
  | null : Proper .null
  | bool (b : Bool) : Proper (.bool b)
  | int (n : Int) : Proper (.int n)
  | float (x : Float) : Proper (.float x)
  | str (s : String) : Proper (.str s)
  | arr {es : List Json} : (∀ e ∈ es, Proper e) → Proper (.arr es)
  | obj {ms : Dictionary Json} : ms.Sorted → (∀ e ∈ ms, Proper e.2) → Proper (.obj ms)

theorem Proper.getD {ms : Dictionary Json} (h : ∀ e ∈ ms, e.2.Proper) (k : String) :
    ((ms.get? k).getD .null).Proper := by
  cases hk : ms.get? k with
  | none => exact .null
  | some j => exact h (k, j) (Dictionary.mem_of_get? hk)

theorem sorted_overlayMembers {base : Dictionary Json} (h : base.Sorted) (ms : Dictionary Json) :
    (overlayMembers base ms).Sorted := by
  induction ms generalizing base with
  | nil => exact h
  | cons e ms ih =>
    obtain ⟨k, j⟩ := e
    rw [overlayMembers]
    exact ih (h.insert k _)

theorem overlay_of_not_isObject (h : ¬ b.IsObject) (a : Json) : a.overlay b = b := by
  cases b with
  | obj ms => exact absurd trivial h
  | _ => cases a <;> rfl

theorem Proper.overlay (ha : a.Proper) (hb : b.Proper) : (a.overlay b).Proper := by
  induction hb generalizing a with
  | @obj ts ht hts ih =>
    cases ha with
    | @obj bs hb hbs =>
      have hs := sorted_overlayMembers hb ts
      refine .obj hs fun e he ↦ ?_
      have hget := (Dictionary.get?_eq_some_iff hs.nodup).2 he
      rw [get?_overlayMembers ht] at hget
      cases hj : ts.get? e.1 with
      | none =>
        rw [hj] at hget
        exact hbs e (Dictionary.mem_of_get? hget)
      | some j =>
        rw [hj] at hget
        rw [← Option.some.inj hget]
        exact ih (e.1, j) (Dictionary.mem_of_get? hj) (.getD hbs e.1)
    | _ => exact .obj ht hts
  | null => exact .null
  | bool b => exact .bool b
  | int n => exact .int n
  | float x => exact .float x
  | str s => exact .str s
  | arr hes => exact .arr hes

theorem overlay_self (h : a.Proper) : a.overlay a = a := by
  induction h with
  | @obj ms hs hms ih =>
    refine congrArg Json.obj ((sorted_overlayMembers hs ms).ext hs fun k ↦ ?_)
    rw [get?_overlayMembers hs]
    cases hj : ms.get? k with
    | none => rfl
    | some j => exact congrArg some (ih (k, j) (Dictionary.mem_of_get? hj))
  | _ => rfl

theorem overlay_overlay (ha : a.Proper) (hb : b.Proper) :
    (a.overlay b).overlay b = a.overlay b := by
  induction hb generalizing a with
  | @obj ts ht hts ih =>
    cases ha with
    | @obj bs hb hbs =>
      have hs := sorted_overlayMembers hb ts
      refine congrArg Json.obj ((sorted_overlayMembers hs ts).ext hs fun k ↦ ?_)
      rw [get?_overlayMembers ht, get?_overlayMembers ht]
      cases hj : ts.get? k with
      | none => rfl
      | some j => exact congrArg some (ih (k, j) (Dictionary.mem_of_get? hj) (.getD hbs k))
    | _ => exact overlay_self (.obj ht hts)
  | _ => rfl

def along? : List String → Json → Option Json
  | [], j => some j
  | k :: path, j => (j.member? k).bind (along? path)

theorem along?_append (path path' : List String) (j : Json) :
    j.along? (path ++ path') = (j.along? path).bind (along? path') := by
  induction path generalizing j with
  | nil => rfl
  | cons k path ih =>
    rw [List.cons_append, along?, along?, Option.bind_assoc]
    exact congrArg _ (funext ih)

theorem along?_cons_of_not_isObject (h : ¬ j.IsObject) (k : String) (path : List String) :
    j.along? (k :: path) = none := by
  cases j with
  | obj ms => exact absurd trivial h
  | _ => rfl

theorem along?_getD_member? (k : String) (path : List String) (j : Json) :
    (((j.member? k).getD .null).along? path).getD .null = (j.along? (k :: path)).getD .null := by
  rw [along?]
  cases j.member? k with
  | none => cases path <;> rfl
  | some j => rfl

theorem null_overlay (b : Json) : null.overlay b = b := by
  cases b <;> rfl

theorem member?_overlay (hb : b.Proper) (hj : b.member? k = some j) :
    (a.overlay b).member? k = some (((a.member? k).getD .null).overlay j) := by
  cases hb with
  | @obj ts ht _ =>
    have hg : ts.get? k = some j := hj
    cases a with
    | obj bs =>
      change (overlayMembers bs ts).get? k = _
      rw [get?_overlayMembers ht, hg]
      rfl
    | _ => exact hg.trans (congrArg some (null_overlay j).symm)
  | _ => cases hj

theorem Proper.member? (h : b.Proper) (hj : b.member? k = some j) : j.Proper := by
  cases h with
  | obj hs hms => exact hms (k, j) (Dictionary.mem_of_get? hj)
  | _ => cases hj

/-- What the upper value has at the end of a path lies over what the lower one has there. -/
theorem along?_overlay (hb : b.Proper) {path : List String} (hv : b.along? path = some v) :
    (a.overlay b).along? path = some (((a.along? path).getD .null).overlay v) := by
  induction path generalizing a b with
  | nil =>
    cases hv
    rfl
  | cons k path ih =>
    obtain ⟨j, hj, hv⟩ := Option.bind_eq_some_iff.1 hv
    rw [along?, member?_overlay hb hj, Option.bind_some, ih (hb.member? hj) hv,
      along?_getD_member?]

variable {as bs : Dictionary Json} {path : List String}

theorem along?_overlay_obj (hb : b.Proper) (ha' : a.along? path = some (.obj as))
    (hb' : b.along? path = some (.obj bs)) :
    (a.overlay b).along? path = some (.obj (overlayMembers as bs)) := by
  rw [along?_overlay hb hb', ha']
  rfl

theorem Proper.along? (h : b.Proper) (hv : b.along? path = some v) : v.Proper := by
  induction path generalizing b with
  | nil =>
    cases hv
    exact h
  | cons k path ih =>
    obtain ⟨j, hj, hv⟩ := Option.bind_eq_some_iff.1 hv
    exact ih (h.member? hj) hv

theorem Proper.sorted_along? (h : b.Proper) (hv : b.along? path = some (.obj bs)) : bs.Sorted := by
  cases h.along? hv with
  | obj hs _ => exact hs

/-- The value holds what the upper one says, and what the lower one says beside it. Objects lead to
the end of a path, so that an object at its end means that there is one at every step. -/
structure LaidOver (lower upper j : Json) : Prop where
  /-- What is no object stands as it is, with nothing below it. -/
  covers : ∀ path v, upper.along? path = some v → ¬ v.IsObject →
    j.along? path = some v ∧ ∀ k rest, j.along? (path ++ k :: rest) = none
  /-- An object stands as it is, too, where there was none. -/
  takes : ∀ path v, upper.along? path = some v → (∀ bs, lower.along? path ≠ some (.obj bs)) →
    j.along? path = some v
  unites : ∀ path bs ts, lower.along? path = some (.obj bs) → upper.along? path = some (.obj ts) →
    ∃ ms : Dictionary Json, j.along? path = some (.obj ms) ∧
      ∀ k, k ∈ ms.keys ↔ k ∈ Dictionary.keys bs ∨ k ∈ Dictionary.keys ts
  keeps : ∀ path bs ts k rest, lower.along? path = some (.obj bs) →
    upper.along? path = some (.obj ts) → k ∉ Dictionary.keys ts →
    j.along? (path ++ k :: rest) = lower.along? (path ++ k :: rest)

theorem overlay_laidOver (a : Json) (hb : b.Proper) : LaidOver a b (a.overlay b) where
  covers path v hv ho := by
    have hc : (a.overlay b).along? path = some v := by
      rw [along?_overlay hb hv, overlay_of_not_isObject ho]
    refine ⟨hc, fun k rest ↦ ?_⟩
    rw [along?_append, hc]
    exact along?_cons_of_not_isObject ho k rest
  takes path v hv ho := by
    rw [along?_overlay hb hv, overlay_of_not_obj]
    intro bs hbs
    cases hl : a.along? path with
    | none => simp [hl] at hbs
    | some u =>
      rw [hl] at hbs
      exact ho bs (hl.trans (congrArg some hbs))
  unites path bs ts hbs hts := by
    have hs := hb.sorted_along? hts
    refine ⟨_, along?_overlay_obj hb hbs hts, fun k ↦ ?_⟩
    rw [Dictionary.mem_keys_iff, Dictionary.mem_keys_iff, Dictionary.mem_keys_iff,
      get?_overlayMembers hs]
    cases Dictionary.get? ts k <;> simp
  keeps path bs ts k rest hbs hts hk := by
    have hs := hb.sorted_along? hts
    have hm : (overlayMembers bs ts).get? k = Dictionary.get? bs k := by
      rw [get?_overlayMembers hs, Dictionary.get?_eq_none hk]
    rw [along?_append, along?_append, along?_overlay_obj hb hbs hts, hbs]
    change ((overlayMembers bs ts).get? k).bind _ = (Dictionary.get? bs k).bind _
    rw [hm]

end Json

namespace Toml

mutual

theorem proper_toJson : (t : Toml) → t.toJson.Proper
  | string s => by
    rw [toJson]
    exact .str s
  | integer n => by
    rw [toJson]
    exact .int n
  | float x => by
    rw [toJson]
    split
    · exact .float x
    · exact .null
  | boolean b => by
    rw [toJson]
    exact .bool b
  | dateTime d => by
    rw [toJson]
    exact .obj (List.pairwise_singleton _ _) (List.forall_mem_singleton.2 (.str d.text))
  | array es => by
    rw [toJson]
    exact .arr (proper_elementsToJson es)
  | table entries => by
    rw [toJson]
    exact .obj (sorted_entriesToJson entries) (proper_entriesToJson entries)

theorem proper_elementsToJson : (es : List Toml) → ∀ e ∈ elementsToJson es, e.Proper
  | [] => List.forall_mem_nil _
  | t :: ts => by
    rw [elementsToJson]
    exact List.forall_mem_cons.2 ⟨proper_toJson t, proper_elementsToJson ts⟩

theorem proper_entriesToJson :
    (entries : List (String × Toml)) → ∀ e ∈ entriesToJson entries, e.2.Proper
  | [] => List.forall_mem_nil _
  | (k, t) :: entries => by
    rw [entriesToJson]
    exact Dictionary.forall_mem_insert (proper_toJson t) (proper_entriesToJson entries)

end

end Toml

namespace Json

variable {a b : Json}

/-- A value that is laid over another hides what is under its scalars and arrays, and leaves what it
does not mention. Doing so twice changes nothing more; nor does laying a value over itself, or an
empty object over an object. -/
theorem overlay_laws (ha : a.Proper) (hb : b.Proper) :
    LaidOver a b (a.overlay b) ∧ (a.overlay b).Proper ∧ (a.overlay b).overlay b = a.overlay b ∧
      a.overlay a = a ∧ (a.IsObject → a.overlay (.obj []) = a) := by
  refine ⟨overlay_laidOver a hb, ha.overlay hb, overlay_overlay ha hb, overlay_self ha, ?_⟩
  intro ho
  obtain ⟨ms, rfl⟩ := ho.eq_obj
  rfl

def lowerDocument : Toml :=
  .table [("filter", .table [("pattern", .string "copy")]),
    ("device", .table [("threads", .integer 2), ("fp64", .boolean true)])]

def upperDocument : Toml :=
  .table [("device", .table [("fp64", .boolean false)]), ("filter", .string "all")]

theorem overlay_laws_documents : lowerDocument.toJson.Proper ∧ upperDocument.toJson.Proper ∧
    (lowerDocument.toJson.overlay upperDocument.toJson).along? ["device", "fp64"] =
      some (.bool false) ∧
    (lowerDocument.toJson.overlay upperDocument.toJson).along? ["device", "threads"] =
      some (.int 2) ∧
    (lowerDocument.toJson.overlay upperDocument.toJson).along? ["filter", "pattern"] = none ∧
    (lowerDocument.toJson.overlay upperDocument.toJson).overlay upperDocument.toJson =
      lowerDocument.toJson.overlay upperDocument.toJson := by
  have hl : lowerDocument.toJson = .obj
      [("device", .obj [("fp64", .bool true), ("threads", .int 2)]),
      ("filter", .obj [("pattern", .str "copy")])] := by cbv
  have hu : upperDocument.toJson = .obj [("device", .obj [("fp64", .bool false)]),
      ("filter", .str "all")] := by cbv
  have hlower := Toml.proper_toJson lowerDocument
  have hupper := Toml.proper_toJson upperDocument
  obtain ⟨hlaid, -, htwice, -⟩ := overlay_laws hlower hupper
  refine ⟨hlower, hupper, ?_, ?_, ?_, htwice⟩
  · exact (hlaid.covers ["device", "fp64"] (.bool false) (by rw [hu]; rfl) id).1
  · refine (hlaid.keeps ["device"] _ _ "threads" [] (by rw [hl]; rfl) (by rw [hu]; rfl) ?_).trans ?_
    · decide
    · rw [hl]
      rfl
  · exact (hlaid.covers ["filter"] (.str "all") (by rw [hu]; rfl) id).2 "pattern" []

end Json

end Conformance
