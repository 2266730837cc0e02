import Conformance.Toml.Untyped

namespace Conformance.Toml

variable {p : Toml → Prop} {t : Toml} {es : List Toml} {entries : List (String × Toml)}

mutual

def parts : Toml → List Toml
  | array es => array es :: elementsParts es
  | table entries => table entries :: entriesParts entries
  | t => [t]

def elementsParts : List Toml → List Toml
  | [] => []
  | t :: ts => t.parts ++ elementsParts ts

def entriesParts : List (String × Toml) → List Toml
  | [] => []
  | (_, t) :: rest => t.parts ++ entriesParts rest

end

def Everywhere (p : Toml → Prop) (t : Toml) : Prop := ∀ v ∈ t.parts, p v

instance [DecidablePred p] : Decidable (t.Everywhere p) :=
  inferInstanceAs (Decidable (∀ v ∈ t.parts, p v))

theorem mem_elementsParts {v : Toml} : v ∈ elementsParts es ↔ ∃ t ∈ es, v ∈ t.parts := by
  induction es with
  | nil => simp [elementsParts]
  | cons t ts ih => simp [elementsParts, ih]

theorem mem_entriesParts {v : Toml} : v ∈ entriesParts entries ↔ ∃ e ∈ entries, v ∈ e.2.parts := by
  induction entries with
  | nil => simp [entriesParts]
  | cons e rest ih => simp [entriesParts, ih]

theorem everywhere_array :
    (array es).Everywhere p ↔ p (array es) ∧ ∀ t ∈ es, t.Everywhere p := by
  simp only [Everywhere, parts, List.forall_mem_cons, mem_elementsParts]
  apply and_congr_right
  intro _
  exact ⟨fun h t ht v hv ↦ h v ⟨t, ht, hv⟩, fun h v ⟨t, ht, hv⟩ ↦ h t ht v hv⟩

theorem everywhere_table :
    (table entries).Everywhere p ↔ p (table entries) ∧ ∀ e ∈ entries, e.2.Everywhere p := by
  simp only [Everywhere, parts, List.forall_mem_cons, mem_entriesParts]
  apply and_congr_right
  intro _
  exact ⟨fun h e he v hv ↦ h v ⟨e, he, hv⟩, fun h v ⟨e, he, hv⟩ ↦ h e he v hv⟩

theorem Everywhere.self (h : t.Everywhere p) : p t := by
  apply h
  cases t <;> simp [parts]

def Unmarked : Toml → Prop
  | table entries => (entries.map Prod.fst).head? ≠ some dateTimeKey
  | _ => True

instance : DecidablePred Unmarked := fun t ↦
  match t with
  | table entries => inferInstanceAs (Decidable ((entries.map Prod.fst).head? ≠ some dateTimeKey))
  | string _ | integer _ | float _ | boolean _ | dateTime _ | array _ => .isTrue trivial

theorem dateEntry?_eq_none (h : (table entries).Unmarked) : dateEntry? entries = none := by
  cases entries with
  | nil => rfl
  | cons e rest => exact if_neg fun hk ↦ h (congrArg some hk)

mutual

theorem untyped?_eq_self : (t : Toml) → t.Everywhere Unmarked → t.untyped? = some t
  | array es, h => by
    rw [untyped?, untypedElements?_eq_self es (everywhere_array.1 h).2]
    rfl
  | table entries, h => by
    obtain ⟨hm, he⟩ := everywhere_table.1 h
    rw [untyped?, dateEntry?_eq_none hm, untypedEntries?_eq_self entries he]
    rfl
  | string _, _ | integer _, _ | float _, _ | boolean _, _ | dateTime _, _ => rfl

theorem untypedElements?_eq_self : (ts : List Toml) → (∀ t ∈ ts, t.Everywhere Unmarked) →
    untypedElements? ts = some ts
  | [], _ => rfl
  | t :: ts, h => by
    obtain ⟨ht, hts⟩ := List.forall_mem_cons.1 h
    rw [untypedElements?, untyped?_eq_self t ht, untypedElements?_eq_self ts hts]
    rfl

theorem untypedEntries?_eq_self : (entries : List (String × Toml)) →
    (∀ e ∈ entries, e.2.Everywhere Unmarked) → untypedEntries? entries = some entries
  | [], _ => rfl
  | (k, t) :: rest, h => by
    obtain ⟨ht, hrest⟩ := List.forall_mem_cons.1 h
    rw [untypedEntries?, untyped?_eq_self t ht, untypedEntries?_eq_self rest hrest]
    rfl

end

end Conformance.Toml
