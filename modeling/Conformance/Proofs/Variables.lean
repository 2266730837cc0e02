import Conformance.Proofs.Leaf
import Mathlib.Data.List.Nodup

namespace Conformance.Environment

open Config (Leaf)

variable {α : Type} {env : Environment}

def variableOf? : Leaf α → Option String
  | .pattern => some "FILTER"
  | .exclude => some "EXCLUDE"
  | .timeout => some "TIMEOUT"
  | .threads => some "THREADS"
  | .subGroupSize => some "SUB_GROUP_SIZE"
  | .fp64 => some "FP64"
  | .atomic64 => some "ATOMIC64"
  | .showNotes => some "SHOW_NOTES"
  | .verbose => some "VERBOSE"
  | _ => none

def ofText? : {α : Type} → Leaf α → String → Option α
  | _, .pattern, raw => some (some raw)
  | _, .exclude, raw => some (commaSeparated raw)
  | _, .timeout, raw => (read? raw).map some
  | _, .threads, raw => read? raw
  | _, .subGroupSize, raw => (read? raw).map some
  | _, .fp64, raw => some (isTrue raw)
  | _, .atomic64, raw => some (isTrue raw)
  | _, .showNotes, raw => NotesPolicy.ofName? raw
  | _, .verbose, raw => some (isTrue raw)
  | _, _, _ => none

def leaf? (env : Environment) (l : Leaf α) : Option α :=
  ((variableOf? l).bind env.setting?).bind (ofText? l)

theorem ifNumber_fst (key : String) (set : Nat → Config → Config) (raw : String) (c : Config) :
    (ifNumber key set raw c).1 = ((read? raw).map fun n ↦ set n c).getD c := by
  unfold ifNumber
  cases (read? raw : Option Nat) <;> rfl

theorem setPolicy_fst (raw : String) (c : Config) :
    (setPolicy raw c).1 =
      ((NotesPolicy.ofName? raw).map fun p ↦ { c with report.showNotes := p }).getD c := by
  unfold setPolicy NotesPolicy.ofText
  cases NotesPolicy.ofName? raw <;> rfl

theorem get_change (l : Leaf α) {e : String × Change} (he : e ∈ changes) (raw : String)
    (c : Config) :
    l.get (e.2 raw c).1 =
      if variableOf? l = some e.1 then (ofText? l raw).getD (l.get c) else l.get c := by
  simp only [changes, List.mem_cons, List.not_mem_nil, or_false] at he
  obtain rfl | rfl | rfl | rfl | rfl | rfl | rfl | rfl | rfl := he
  case inr.inr.inl | inr.inr.inr.inl | inr.inr.inr.inr.inl =>
    rw [ifNumber_fst]
    cases hn : (read? raw : Option Nat) <;> cases l <;> first | rfl | simp only [ofText?, hn]; rfl
  case inr.inr.inr.inr.inr.inr.inr.inl =>
    rw [setPolicy_fst]
    cases hp : NotesPolicy.ofName? raw <;> cases l <;> first | rfl | simp only [ofText?, hp]; rfl
  -- The others take every text.
  all_goals cases l <;> rfl

theorem change_parameters {e : String × Change} (he : e ∈ changes) (raw : String) (c : Config) :
    (e.2 raw c).1.parameters = c.parameters := by
  simp only [changes, List.mem_cons, List.not_mem_nil, or_false] at he
  obtain rfl | rfl | rfl | rfl | rfl | rfl | rfl | rfl | rfl := he
  case inr.inr.inl | inr.inr.inr.inl | inr.inr.inr.inr.inl =>
    rw [ifNumber_fst]
    cases (read? raw : Option Nat) <;> rfl
  case inr.inr.inr.inr.inr.inr.inr.inl =>
    rw [setPolicy_fst]
    cases NotesPolicy.ofName? raw <;> rfl
  all_goals rfl

theorem changed_keeps {β : Type} {f : Config → β} {cs : List (String × Change)}
    (h : ∀ e ∈ cs, ∀ raw c, f (e.2 raw c).1 = f c) (c : Config) :
    f (env.changed cs c).1 = f c := by
  induction cs generalizing c with
  | nil => rfl
  | cons e cs ih =>
    obtain ⟨he, hcs⟩ := List.forall_mem_cons.1 h
    rw [changed]
    cases env.setting? e.1 with
    | none => exact ih hcs c
    | some raw => exact (ih hcs _).trans (he raw c)

theorem get_changed_of_not_mem {cs : List (String × Change)} (hcs : ∀ e ∈ cs, e ∈ changes)
    (l : Leaf α) (hk : ∀ k ∈ cs.map Prod.fst, variableOf? l ≠ some k) (c : Config) :
    l.get (env.changed cs c).1 = l.get c := by
  refine changed_keeps (fun e he raw c ↦ ?_) c
  rw [get_change l (hcs e he), if_neg (hk e.1 (List.mem_map_of_mem he))]

theorem get_changed_of_mem {cs : List (String × Change)} (hcs : ∀ e ∈ cs, e ∈ changes)
    (l : Leaf α) (hn : (cs.map Prod.fst).Nodup) {k : String} (hk : k ∈ cs.map Prod.fst)
    (hl : variableOf? l = some k) (c : Config) :
    l.get (env.changed cs c).1 = (env.leaf? l).getD (l.get c) := by
  induction cs generalizing c with
  | nil => cases hk
  | cons e cs ih =>
    obtain ⟨he, hcs⟩ := List.forall_mem_cons.1 hcs
    obtain ⟨hne, hn⟩ := List.nodup_cons.1 hn
    rw [changed]
    by_cases hke : k = e.1
    · have hrest : ∀ c, l.get (env.changed cs c).1 = l.get c :=
        get_changed_of_not_mem hcs l fun k' hk' h ↦
          hne (by rwa [← hke, Option.some.inj (hl.symm.trans h)])
      have hs : env.leaf? l = (env.setting? e.1).bind (ofText? l) := by rw [leaf?, hl, hke]; rfl
      rw [hs]
      cases env.setting? e.1 with
      | none => exact hrest c
      | some raw =>
        refine (hrest _).trans ?_
        rw [get_change l he, if_pos (hl.trans (congrArg some hke))]
        rfl
    · have hk := (List.mem_cons.1 hk).resolve_left hke
      cases env.setting? e.1 with
      | none => exact ih hcs hn hk c
      | some raw =>
        refine (ih hcs hn hk _).trans ?_
        rw [get_change l he, if_neg fun h ↦ hke (Option.some.inj (hl.symm.trans h))]

theorem variableOf?_mem (l : Leaf α) {k : String} (h : variableOf? l = some k) :
    k ∈ changes.map Prod.fst := by
  cases l <;> cases h <;> decide

theorem get_applyTo (l : Leaf α) (c : Config) :
    l.get (env.applyTo c).1 = (env.leaf? l).getD (l.get c) := by
  have hp : l.get (env.applyTo c).1 = l.get (env.changed changes c).1 := by cases l <;> rfl
  rw [hp]
  cases hl : variableOf? l with
  | none =>
    rw [get_changed_of_not_mem (fun _ ↦ id) l (by simp [hl]), leaf?, hl]
    rfl
  | some k => exact get_changed_of_mem (fun _ ↦ id) l (by decide) (variableOf?_mem l hl) hl c

/-- The value of the variable of a parameter. Where a name stands twice, the last one counts. -/
def parameter? (env : Environment) (k : String) : Option String :=
  if k = "" then none else env.reverse.lookup (parameterText ++ k)

theorem behind?_eq_some_iff {start whole rest : String} :
    behind? start whole = some rest ↔ whole = start ++ rest := by
  unfold behind?
  split
  · next h =>
    obtain ⟨cs, hcs⟩ := List.isPrefixOf_iff_prefix.1 h
    rw [← hcs, List.drop_left, Option.some.injEq, ← String.toList_inj, ← String.toList_inj,
      String.toList_ofList, String.toList_append, ← hcs, List.append_cancel_left_eq]
  · next h =>
    refine iff_of_false nofun ?_
    rintro rfl
    exact h (List.isPrefixOf_iff_prefix.2 ⟨rest.toList, String.toList_append.symm⟩)

def parameterOf? (e : String × String) : Option (String × String) :=
  ((behind? parameterText e.1).filter (· ≠ "")).map fun name ↦ (name, e.2)

theorem parameterOf?_eq_some_iff {e p : String × String} :
    parameterOf? e = some p ↔ p.1 ≠ "" ∧ e = (parameterText ++ p.1, p.2) := by
  obtain ⟨name, value⟩ := e
  obtain ⟨k, v⟩ := p
  simp only [parameterOf?, Option.map_eq_some_iff, Option.filter_eq_some_iff, behind?_eq_some_iff,
    decide_eq_true_eq, Prod.mk.injEq]
  constructor
  · rintro ⟨_, ⟨hn, hk⟩, rfl, rfl⟩
    exact ⟨hk, hn, rfl⟩
  · rintro ⟨hk, hn, rfl⟩
    exact ⟨k, ⟨hn, hk⟩, rfl, rfl⟩

theorem lookup_filterMap_parameterOf? {k : String} (hk : k ≠ "") (es : List (String × String)) :
    (es.filterMap parameterOf?).lookup k = es.lookup (parameterText ++ k) := by
  induction es with
  | nil => rfl
  | cons e es ih =>
    have hl : List.lookup (parameterText ++ k) (e :: es) =
        if parameterText ++ k = e.1 then some e.2 else es.lookup (parameterText ++ k) :=
      Dictionary.get?_cons e.1 _ e.2 es
    rw [hl, List.filterMap_cons, ← ih]
    cases he : parameterOf? e with
    | none =>
      refine (if_neg fun h ↦ ?_).symm
      have hs : parameterOf? e = some (k, e.2) :=
        parameterOf?_eq_some_iff.2 ⟨hk, Prod.ext h.symm rfl⟩
      rw [he] at hs
      cases hs
    | some p =>
      obtain ⟨-, rfl⟩ := parameterOf?_eq_some_iff.1 he
      refine (Dictionary.get?_cons p.1 k p.2 _).trans ?_
      simp only [String.append_right_inj]
      rfl

theorem get?_parameters (env : Environment) (k : String) :
    env.parameters.get? k = env.parameter? k := by
  have hp : env.parameters = Dictionary.ofList (env.filterMap parameterOf?) := rfl
  rw [hp, Dictionary.get?_ofList, ← List.filterMap_reverse, parameter?]
  split
  · next hk =>
    refine Dictionary.get?_eq_none fun hm ↦ ?_
    obtain ⟨p, hp, rfl⟩ := List.mem_map.1 hm
    obtain ⟨e, -, he⟩ := List.mem_filterMap.1 hp
    exact (parameterOf?_eq_some_iff.1 he).1 hk
  · next hk => exact lookup_filterMap_parameterOf? hk _

/-- The parameters of the environment come before those that were there. -/
theorem parameters_applyTo (c : Config) (k : String) :
    (env.applyTo c).1.parameters.get? k = (env.parameter? k).or (c.parameters.get? k) := by
  have hs : env.parameters.Sorted := Dictionary.sorted_ofList _
  change Dictionary.get? (env.parameters.foldl (fun d e ↦ d.insert e.1 e.2)
    (env.changed changes c).1.parameters) k = _
  rw [Dictionary.get?_foldl_insert, changed_keeps fun _ he ↦ change_parameters he,
    hs.lookup_reverse, get?_parameters]

end Conformance.Environment
