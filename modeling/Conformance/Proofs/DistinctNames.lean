import Conformance.Proofs.Fallible
import Conformance.Proofs.Untyped
import Mathlib.Data.List.Nodup

namespace Conformance.Toml

variable {t : Toml}

def NamesOnce : Toml → Prop
  | table entries => (entries.map Prod.fst).Nodup
  | _ => True

abbrev Unambiguous (t : Toml) : Prop := t.Everywhere NamesOnce

theorem entriesToToml_eq_map (entries : List (String × Item)) :
    entriesToToml entries = entries.map fun e ↦ (e.1, e.2.toToml) := by
  induction entries with
  | nil => rfl
  | cons e rest ih =>
    rw [entriesToToml, ih]
    rfl

theorem tablesToToml_eq_map (ts : List Table) : tablesToToml ts = ts.map Table.toToml := by
  induction ts with
  | nil => rfl
  | cons t ts ih =>
    rw [tablesToToml, ih]
    rfl

namespace Table

variable {t t' : Table} {i : Item} {k : String} {path : List String} {v : Toml}

theorem unambiguous_iff : t.toToml.Unambiguous ↔
    (t.entries.map Prod.fst).Nodup ∧ ∀ e ∈ t.entries, e.2.toToml.Unambiguous := by
  obtain ⟨implicit, dotted, entries⟩ := t
  rw [toToml, Unambiguous, everywhere_table, entriesToToml_eq_map, NamesOnce, List.map_map,
    List.forall_mem_map]
  rfl

theorem unambiguous_empty (implicit dotted : Bool) : (mk implicit dotted []).toToml.Unambiguous :=
  unambiguous_iff.2 ⟨List.nodup_nil, nofun⟩

theorem unambiguous_tables {ts : List Table} :
    (Item.tables ts).toToml.Unambiguous ↔ ∀ t ∈ ts, t.toToml.Unambiguous := by
  rw [Item.toToml, Unambiguous, everywhere_array, tablesToToml_eq_map]
  simp [NamesOnce]

theorem unambiguous_get? (h : t.toToml.Unambiguous) (hi : t.get? k = some i) :
    i.toToml.Unambiguous := by
  have hm : (k, i) ∈ t.entries := by
    obtain ⟨before, after, he, -⟩ := List.lookup_eq_some_iff.1 hi
    rw [he]
    exact List.mem_append_right _ List.mem_cons_self
  exact (unambiguous_iff.1 h).2 _ hm

theorem unambiguous_set (h : t.toToml.Unambiguous) (hi : i.toToml.Unambiguous) :
    (t.set k i).toToml.Unambiguous := by
  obtain ⟨hn, he⟩ := unambiguous_iff.1 h
  have hset : (t.set k i).entries = if (t.get? k).isSome
      then t.entries.map fun e ↦ if e.1 == k then (k, i) else e else t.entries ++ [(k, i)] := rfl
  rw [unambiguous_iff, hset]
  split
  · constructor
    · have hnames : (t.entries.map fun e ↦ if e.1 == k then (k, i) else e).map Prod.fst =
          t.entries.map Prod.fst := by
        rw [List.map_map]
        apply List.map_congr_left
        intro e _
        by_cases hk : e.1 = k <;> simp [hk]
      rw [hnames]
      exact hn
    · intro e hm
      obtain ⟨e', hm', rfl⟩ := List.mem_map.1 hm
      split
      · exact hi
      · exact he e' hm'
  · next hk =>
    have hnone : t.get? k = none := by simpa using hk
    have hnew : k ∉ t.entries.map Prod.fst := by
      intro hm
      obtain ⟨e, he', hk'⟩ := List.mem_map.1 hm
      have hne := List.lookup_eq_none_iff.1 hnone e he'
      simp [hk'] at hne
    constructor
    · rw [List.map_append, List.map_singleton]
      exact hn.append (List.nodup_singleton k) (by simpa using hnew)
    · intro e hm
      rw [List.mem_append, List.mem_singleton] at hm
      obtain hm | rfl := hm
      · exact he e hm
      · exact hi

theorem unambiguous_erase (h : t.toToml.Unambiguous) (k : String) :
    (t.erase k).toToml.Unambiguous := by
  obtain ⟨hn, he⟩ := unambiguous_iff.1 h
  rw [unambiguous_iff, erase]
  constructor
  · exact hn.sublist (List.filter_sublist.map _)
  · intro e hm
    exact he e (List.mem_filter.1 hm).1

theorem unambiguous_update {dotted : Bool} {change : Table → Option Table}
    (hc : ∀ t t', t.toToml.Unambiguous → change t = some t' → t'.toToml.Unambiguous)
    (h : t.toToml.Unambiguous) (hu : t.update dotted change path = some t') :
    t'.toToml.Unambiguous := by
  induction path generalizing t t' with
  | nil => exact hc t t' h hu
  | cons k path ih =>
    rw [update] at hu
    -- The next name leads nowhere yet, to a value, to a table, or to the last table of an array.
    split at hu
    · obtain ⟨inner, hinner, ht⟩ := Option.bind_eq_some_iff.1 hu
      cases ht
      exact unambiguous_set h (ih (unambiguous_empty true dotted) hinner)
    · cases hu
    · next inner hk =>
      split at hu
      · cases hu
      · obtain ⟨inner', hinner, ht⟩ := Option.bind_eq_some_iff.1 hu
        cases ht
        exact unambiguous_set h (ih (unambiguous_get? h hk) hinner)
    · cases hu
    · next last earlier hk =>
      obtain ⟨last', hlast, ht⟩ := Option.bind_eq_some_iff.1 hu
      cases ht
      obtain ⟨hl, he⟩ := List.forall_mem_cons.1 (unambiguous_tables.1 (unambiguous_get? h hk))
      apply unambiguous_set h
      exact unambiguous_tables.2 (List.forall_mem_cons.2 ⟨ih hl hlast, he⟩)

theorem unambiguous_mention (h : t.toToml.Unambiguous)
    (hu : t.update false some path = some t') : t'.toToml.Unambiguous := by
  refine unambiguous_update ?_ h hu
  intro inner inner' hinner he
  cases he
  exact hinner

theorem unambiguous_addValue (h : t.toToml.Unambiguous) (hv : v.Unambiguous)
    (ha : t.addValue path k v = some t') : t'.toToml.Unambiguous := by
  refine unambiguous_update ?_ h ha
  intro inner inner' hinner hc
  split at hc
  · cases hc
  · cases hc
    exact unambiguous_set hinner hv

theorem unambiguous_addValues {pairs : List (List String × String × Toml)}
    (h : t.toToml.Unambiguous) (hp : ∀ p ∈ pairs, p.2.2.Unambiguous)
    (ha : pairs.foldlM (fun t (path, k, v) ↦ t.addValue path k v) t = some t') :
    t'.toToml.Unambiguous := by
  induction pairs generalizing t with
  | nil =>
    cases ha
    exact h
  | cons p pairs ih =>
    obtain ⟨hv, hp⟩ := List.forall_mem_cons.1 hp
    rw [List.foldlM_cons] at ha
    obtain ⟨next, hn, ha⟩ := Option.bind_eq_some_iff.1 ha
    exact ih (unambiguous_addValue h hv hn) hp ha

end Table

theorem unambiguous_inlineTable {pairs : List (List String × String × Toml)}
    (hp : ∀ p ∈ pairs, p.2.2.Unambiguous) (h : inlineTable? pairs = some t) : t.Unambiguous := by
  obtain ⟨last, hl, ht⟩ := Option.bind_eq_some_iff.1 h
  cases ht
  exact Table.unambiguous_addValues (Table.unambiguous_empty false false) hp hl

def IsScalar : Toml → Prop
  | array _ | table _ => False
  | _ => True

theorem IsScalar.everywhere {p : Toml → Prop} (h : t.IsScalar) (hp : p t) : t.Everywhere p := by
  have hparts : t.parts = [t] := by
    cases t with
    | array _ | table _ => exact h.elim
    | _ => rfl
  intro v hv
  rw [hparts, List.mem_singleton] at hv
  subst hv
  exact hp

theorem IsScalar.unambiguous (h : t.IsScalar) : t.Unambiguous := by
  refine h.everywhere ?_
  cases t with
  | array _ | table _ => exact h.elim
  | _ => trivial

section

variable {cs rest : List Char}

theorem isScalar_of_integer? {n : Int} (h : integer? n = some t) : t.IsScalar := by
  unfold integer? at h
  split at h
  · cases h
    trivial
  · cases h

theorem isScalar_of_float? {negative : Bool} {mantissa : List Char} {exponent : Int}
    (h : float? negative mantissa exponent = some t) : t.IsScalar := by
  obtain ⟨n, -, h⟩ := Option.bind_eq_some_iff.1 h
  dsimp only at h
  split at h
  · cases h
  · cases h
    trivial

theorem isScalar_of_readRadix {radix : Nat} (h : readRadix radix cs = some (t, rest)) :
    t.IsScalar := by
  obtain ⟨⟨ds, after⟩, -, h⟩ := Option.bind_eq_some_iff.1 h
  obtain ⟨n, -, h⟩ := Option.bind_eq_some_iff.1 h
  obtain ⟨v, hv, h⟩ := Option.bind_eq_some_iff.1 h
  cases h
  exact isScalar_of_integer? hv

theorem isScalar_of_readUnsigned {negative : Bool} (h : readUnsigned negative cs = some (t, rest)) :
    t.IsScalar := by
  unfold readUnsigned at h
  split at h
  · cases h
    trivial
  · cases h
    trivial
  · obtain ⟨⟨whole, after⟩, -, h⟩ := Option.bind_eq_some_iff.1 h
    dsimp only at h
    split at h
    · split at h
      · obtain ⟨⟨fraction, after⟩, -, h⟩ := Option.bind_eq_some_iff.1 h
        obtain ⟨⟨exponent, after⟩, -, h⟩ := Option.bind_eq_some_iff.1 h
        obtain ⟨v, hv, h⟩ := Option.bind_eq_some_iff.1 h
        cases h
        exact isScalar_of_float? hv
      · obtain ⟨n, -, h⟩ := Option.bind_eq_some_iff.1 h
        obtain ⟨v, hv, h⟩ := Option.bind_eq_some_iff.1 h
        cases h
        exact isScalar_of_integer? hv
    · obtain ⟨n, -, h⟩ := Option.bind_eq_some_iff.1 h
      obtain ⟨v, hv, h⟩ := Option.bind_eq_some_iff.1 h
      cases h
      exact isScalar_of_integer? hv

theorem isScalar_of_readNumber (h : readNumber cs = some (t, rest)) : t.IsScalar := by
  unfold readNumber at h
  split at h
  · exact isScalar_of_readRadix h
  · exact isScalar_of_readRadix h
  · exact isScalar_of_readRadix h
  · exact isScalar_of_readUnsigned h
  · exact isScalar_of_readUnsigned h
  · exact isScalar_of_readUnsigned h

end

/-- What a reader with this much fuel finds. -/
structure Finds (fuel : Nat) : Prop where
  value : ∀ depth cs v rest, readValue fuel depth cs = some (v, rest) → v.Unambiguous
  elements : ∀ depth cs es rest, readElements fuel depth cs = some (es, rest) →
    ∀ e ∈ es, e.Unambiguous
  pairs : ∀ depth cs pairs rest, readPairs fuel depth cs = some (pairs, rest) →
    ∀ p ∈ pairs, p.2.2.Unambiguous

theorem finds_succ {fuel : Nat} (ih : Finds fuel) : Finds (fuel + 1) := by
  constructor
  · intro depth cs v rest h
    unfold readValue at h
    split at h
    · obtain ⟨s, -, rfl⟩ := map_fst_eq_some h
      exact IsScalar.unambiguous trivial
    · obtain ⟨s, -, rfl⟩ := map_fst_eq_some h
      exact IsScalar.unambiguous trivial
    · cases h
      exact IsScalar.unambiguous trivial
    · cases h
      exact IsScalar.unambiguous trivial
    · split at h
      · cases h
      · obtain ⟨es, he, rfl⟩ := map_fst_eq_some h
        exact everywhere_array.2 ⟨trivial, ih.elements _ _ _ _ he⟩
    · split at h
      · cases h
      · split at h
        · cases h
          exact everywhere_table.2 ⟨List.nodup_nil, nofun⟩
        · obtain ⟨⟨pairs, after⟩, hp, h⟩ := Option.bind_eq_some_iff.1 h
          obtain ⟨t, ht, h⟩ := Option.bind_eq_some_iff.1 h
          cases h
          exact unambiguous_inlineTable (ih.pairs _ _ _ _ hp) ht
    · split at h
      · obtain ⟨d, -, rfl⟩ := map_fst_eq_some h
        exact IsScalar.unambiguous trivial
      · exact (isScalar_of_readNumber h).unambiguous
  · intro depth cs es rest h
    unfold readElements at h
    split at h
    · cases h
      nofun
    · obtain ⟨⟨e, after⟩, he, h⟩ := Option.bind_eq_some_iff.1 h
      have hu := ih.value _ _ _ _ he
      dsimp only at h
      split at h
      · obtain ⟨⟨es, after⟩, hes, h⟩ := Option.bind_eq_some_iff.1 h
        cases h
        exact List.forall_mem_cons.2 ⟨hu, ih.elements _ _ _ _ hes⟩
      · cases h
        exact List.forall_mem_singleton.2 hu
      · cases h
  · intro depth cs pairs rest h
    unfold readPairs at h
    obtain ⟨⟨⟨path, k⟩, after⟩, -, h⟩ := Option.bind_eq_some_iff.1 h
    dsimp only at h
    split at h
    · obtain ⟨⟨v, after⟩, hv, h⟩ := Option.bind_eq_some_iff.1 h
      have hu := ih.value _ _ _ _ hv
      dsimp only at h
      split at h
      · obtain ⟨⟨pairs, after⟩, hp, h⟩ := Option.bind_eq_some_iff.1 h
        cases h
        exact List.forall_mem_cons.2 ⟨hu, ih.pairs _ _ _ _ hp⟩
      · cases h
        exact List.forall_mem_singleton.2 hu
      · cases h
    · cases h

theorem finds (fuel : Nat) : Finds fuel := by
  induction fuel with
  | zero => constructor <;> intro depth cs found rest h <;> cases h
  | succ fuel ih => exact finds_succ ih

namespace Progress

variable {p p' : Progress} {cs rest : List Char} {root : Table} {path : List String} {k : String}

structure Unambiguous (p : Progress) : Prop where
  root : p.root.toToml.Unambiguous
  current : p.current.toToml.Unambiguous

theorem Unambiguous.close {t : Table} (h : p.Unambiguous) (hc : p.close = some t) :
    t.toToml.Unambiguous := by
  unfold Progress.close at hc
  split at hc
  · cases hc
    exact h.current
  · refine Table.unambiguous_update ?_ h.root hc
    intro parent parent' hparent hp
    split at hp
    · cases hp
      apply Table.unambiguous_set hparent
      exact Table.unambiguous_tables.2 (List.forall_mem_singleton.2 h.current)
    · next ts hk =>
      cases hp
      apply Table.unambiguous_set hparent
      have hts := Table.unambiguous_tables.1 (Table.unambiguous_get? hparent hk)
      exact Table.unambiguous_tables.2 (List.forall_mem_cons.2 ⟨h.current, hts⟩)
    · cases hp
  · refine Table.unambiguous_update ?_ h.root hc
    intro parent parent' hparent hp
    split at hp
    · cases hp
    · cases hp
      exact Table.unambiguous_set hparent h.current

theorem unambiguous_parent? {t : Table} (h : root.toToml.Unambiguous)
    (hp : parent? root path = some t) : t.toToml.Unambiguous := by
  induction path generalizing root with
  | nil =>
    cases hp
    exact h
  | cons k path ih =>
    unfold parent? at hp
    split at hp
    · cases hp
      exact Table.unambiguous_empty true false
    · next t' hk => exact ih (Table.unambiguous_get? h hk) hp
    · next t' ts hk =>
      have hts := Table.unambiguous_tables.1 (Table.unambiguous_get? h hk)
      exact ih (List.forall_mem_cons.1 hts).1 hp
    · cases hp

theorem unambiguous_openTable (h : root.toToml.Unambiguous)
    (ho : openTable root path k = some p) : p.Unambiguous := by
  obtain ⟨parent, hp, ho⟩ := Option.bind_eq_some_iff.1 ho
  split at ho
  · obtain ⟨root', hr, ho⟩ := Option.bind_eq_some_iff.1 ho
    cases ho
    exact ⟨Table.unambiguous_mention h hr, Table.unambiguous_empty false false⟩
  -- A table that was only implied so far is taken out and goes on as the current one.
  · next entries hk =>
    obtain ⟨root', hr, ho⟩ := Option.bind_eq_some_iff.1 ho
    cases ho
    constructor
    · refine Table.unambiguous_update ?_ h hr
      intro t t' ht he
      cases he
      exact Table.unambiguous_erase ht k
    · have hi := Table.unambiguous_get? (unambiguous_parent? h hp) hk
      exact Table.unambiguous_iff.2 (Table.unambiguous_iff.1 hi)
  · cases ho

theorem unambiguous_openElement (h : root.toToml.Unambiguous)
    (ho : openElement root path k = some p) : p.Unambiguous := by
  obtain ⟨parent, -, ho⟩ := Option.bind_eq_some_iff.1 ho
  split at ho
  · obtain ⟨root', hr, ho⟩ := Option.bind_eq_some_iff.1 ho
    cases ho
    exact ⟨Table.unambiguous_mention h hr, Table.unambiguous_empty false false⟩
  · obtain ⟨root', hr, ho⟩ := Option.bind_eq_some_iff.1 ho
    cases ho
    exact ⟨Table.unambiguous_mention h hr, Table.unambiguous_empty false false⟩
  · cases ho

theorem Unambiguous.readHeader (h : p.Unambiguous) (hr : p.readHeader cs = some (p', rest)) :
    p'.Unambiguous := by
  obtain ⟨root, hc, hr⟩ := Option.bind_eq_some_iff.1 hr
  have hroot := h.close hc
  split at hr
  · obtain ⟨⟨⟨path, k⟩, after⟩, -, hr⟩ := Option.bind_eq_some_iff.1 hr
    split at hr
    · obtain ⟨q, hq, hr⟩ := Option.bind_eq_some_iff.1 hr
      obtain ⟨after, -, hr⟩ := Option.bind_eq_some_iff.1 hr
      cases hr
      exact unambiguous_openElement hroot hq
    · cases hr
  · obtain ⟨⟨⟨path, k⟩, after⟩, -, hr⟩ := Option.bind_eq_some_iff.1 hr
    split at hr
    · obtain ⟨q, hq, hr⟩ := Option.bind_eq_some_iff.1 hr
      obtain ⟨after, -, hr⟩ := Option.bind_eq_some_iff.1 hr
      cases hr
      exact unambiguous_openTable hroot hq
    · cases hr

theorem Unambiguous.readEntry (h : p.Unambiguous) (hr : p.readEntry cs = some (p', rest)) :
    p'.Unambiguous := by
  obtain ⟨⟨⟨path, k⟩, after⟩, -, hr⟩ := Option.bind_eq_some_iff.1 hr
  dsimp only at hr
  split at hr
  · obtain ⟨⟨v, after⟩, hv, hr⟩ := Option.bind_eq_some_iff.1 hr
    obtain ⟨after, -, hr⟩ := Option.bind_eq_some_iff.1 hr
    obtain ⟨current, hc, hr⟩ := Option.bind_eq_some_iff.1 hr
    cases hr
    have hvalue := (finds _).value _ _ _ _ hv
    exact ⟨h.root, Table.unambiguous_addValue h.current hvalue hc⟩
  · cases hr

theorem Unambiguous.readLines {fuel : Nat} (h : p.Unambiguous)
    (hr : readLines fuel p cs = some p') : p'.Unambiguous := by
  induction fuel generalizing p cs with
  | zero => cases hr
  | succ fuel ih =>
    unfold Progress.readLines at hr
    split at hr
    · cases hr
      exact h
    · obtain ⟨⟨q, after⟩, hq, hr⟩ := Option.bind_eq_some_iff.1 hr
      exact ih (h.readHeader hq) hr
    · split at hr
      · obtain ⟨after, -, hr⟩ := Option.bind_eq_some_iff.1 hr
        exact ih h hr
      · obtain ⟨⟨q, after⟩, hq, hr⟩ := Option.bind_eq_some_iff.1 hr
        exact ih (h.readEntry hq) hr

end Progress

/-- A document is a table, and no table in it has two entries of one name. -/
theorem ofText?_eq_some {text : String} (h : ofText? text = some t) :
    (∃ entries, t = table entries) ∧ t.Unambiguous := by
  obtain ⟨p, hp, h⟩ := Option.bind_eq_some_iff.1 h
  obtain ⟨root, hc, h⟩ := Option.bind_eq_some_iff.1 h
  cases h
  have hstart : Progress.start.Unambiguous :=
    ⟨Table.unambiguous_empty false false, Table.unambiguous_empty false false⟩
  constructor
  · obtain ⟨implicit, dotted, entries⟩ := root
    exact ⟨_, rfl⟩
  · exact (hstart.readLines hp).close hc

end Conformance.Toml
