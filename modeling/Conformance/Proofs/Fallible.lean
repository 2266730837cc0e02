import Mathlib.Init

namespace Conformance

variable {ε α β γ : Type}

theorem map_eq_ok_iff {f : α → β} {x : Except ε α} {b : β} :
    x.map f = .ok b ↔ ∃ a, x = .ok a ∧ f a = b := by
  cases x <;> simp [Except.map]

theorem mapError_eq_ok_iff {δ : Type} {f : ε → δ} {x : Except ε α} {a : α} :
    x.mapError f = .ok a ↔ x = .ok a := by
  cases x with
  | error e => exact ⟨nofun, nofun⟩
  | ok b =>
    constructor
    · rintro ⟨⟩
      rfl
    · rintro ⟨⟩
      rfl

theorem mapError_map {δ : Type} (f : ε → δ) (g : α → β) (x : Except ε α) :
    (x.map g).mapError f = (x.mapError f).map g := by
  cases x <;> rfl

theorem bind_eq_ok_iff {x : Except ε α} {f : α → Except ε β} {b : β} :
    x >>= f = .ok b ↔ ∃ a, x = .ok a ∧ f a = .ok b := by
  cases x <;> simp [bind, Except.bind]

theorem bind_eq_error_iff {x : Except ε α} {f : α → Except ε β} {e : ε} :
    x >>= f = .error e ↔ x = .error e ∨ ∃ a, x = .ok a ∧ f a = .error e := by
  cases x <;> simp [bind, Except.bind]

theorem bind_bind_ok {x : Except ε α} {y : α → Except ε β} {g : β → γ} :
    (x >>= fun a ↦ y a >>= fun b ↦ .ok (g b)) = (x >>= y).map g := by
  cases x with
  | error e => rfl
  | ok a =>
    change (y a >>= fun b ↦ .ok (g b)) = (y a).map g
    cases y a <;> rfl

theorem toOption_bind (x : Except ε α) (f : α → Except ε β) :
    (x >>= f).toOption = x.toOption.bind fun a ↦ (f a).toOption := by
  cases x <;> rfl

theorem toOption_map (x : Except ε α) (f : α → β) : (x.map f).toOption = x.toOption.map f := by
  cases x <;> rfl

theorem toOption_mapM (f : α → Except ε β) (as : List α) :
    (as.mapM f).toOption = as.mapM fun a ↦ (f a).toOption := by
  induction as with
  | nil => rfl
  | cons a as ih =>
    rw [List.mapM_cons, List.mapM_cons, toOption_bind, ← ih]
    congr 1
    funext b
    rw [toOption_bind]
    rfl

theorem exists_mapM_eq_some_iff {f : α → Option β} {as : List α} :
    (∃ bs, as.mapM f = some bs) ↔ ∀ a ∈ as, ∃ b, f a = some b := by
  induction as with
  | nil => simp
  | cons a as ih =>
    rw [List.forall_mem_cons, ← ih, List.mapM_cons]
    constructor
    · intro ⟨bs, h⟩
      obtain ⟨b, hb, h⟩ := Option.bind_eq_some_iff.1 h
      obtain ⟨bs', hbs, -⟩ := Option.bind_eq_some_iff.1 h
      exact ⟨⟨b, hb⟩, bs', hbs⟩
    · intro ⟨⟨b, hb⟩, bs, hbs⟩
      exact ⟨b :: bs, by rw [hb, hbs]; rfl⟩

theorem map_fst_eq_some {o : Option (α × β)} {f : α → γ} {c : γ} {b : β}
    (h : (o.map fun (a, b) ↦ (f a, b)) = some (c, b)) : ∃ a, o = some (a, b) ∧ f a = c := by
  obtain ⟨⟨a, b'⟩, ho, he⟩ := Option.map_eq_some_iff.1 h
  cases he
  exact ⟨a, ho, rfl⟩

theorem mapM_eq_ok {f : α → Except ε β} {g : α → β} {as : List α}
    (h : ∀ a ∈ as, f a = .ok (g a)) : as.mapM f = .ok (as.map g) := by
  induction as with
  | nil => rfl
  | cons a as ih =>
    obtain ⟨ha, has⟩ := List.forall_mem_cons.1 h
    rw [List.mapM_cons, ha, ih has]
    rfl

theorem exists_of_mapM_eq_ok {f : α → Except ε β} {as : List α} {bs : List β}
    (h : as.mapM f = .ok bs) : ∀ a ∈ as, ∃ b, f a = .ok b := by
  induction as generalizing bs with
  | nil => exact List.forall_mem_nil _
  | cons a as ih =>
    rw [List.mapM_cons] at h
    obtain ⟨b, hb, h⟩ := bind_eq_ok_iff.1 h
    obtain ⟨bs', hbs, -⟩ := bind_eq_ok_iff.1 h
    exact List.forall_mem_cons.2 ⟨⟨b, hb⟩, ih hbs⟩

theorem map_toList_mapM {n : Nat} (f : α → Except ε β) (as : Vector α n) :
    (as.mapM f).map Vector.toList = as.toList.mapM f := by
  rw [Vector.toList, ← Array.toList_mapM, ← Vector.toArray_mapM, ← comp_map]
  rfl

theorem vector_mapM_eq_ok {n : Nat} {f : α → Except ε β} {g : α → β} {as : Vector α n}
    (h : ∀ a ∈ as, f a = .ok (g a)) : as.mapM f = .ok (as.map g) := by
  have hl : as.toList.mapM f = .ok (as.toList.map g) :=
    mapM_eq_ok fun a ha ↦ h a (Vector.mem_toList_iff.1 ha)
  rw [← map_toList_mapM] at hl
  obtain ⟨v, hv, he⟩ := map_eq_ok_iff.1 hl
  rw [hv]
  congr 1
  exact Vector.toList_inj.1 (he.trans Vector.toList_map.symm)

theorem exists_of_vector_mapM_eq_ok {n : Nat} {f : α → Except ε β} {as : Vector α n}
    {bs : Vector β n} (h : as.mapM f = .ok bs) : ∀ a ∈ as, ∃ b, f a = .ok b := by
  have hl : as.toList.mapM f = .ok bs.toList := by
    rw [← map_toList_mapM, h]
    rfl
  exact fun a ha ↦ exists_of_mapM_eq_ok hl a (Vector.mem_toList_iff.2 ha)

end Conformance
