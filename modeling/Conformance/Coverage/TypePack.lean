import Conformance.Coverage.DataType

namespace Conformance.Coverage

structure TypePack where
  types : List DataType
  labels : List String
  one_label_each : labels.length = types.length

structure LabelMismatch where
  types : Nat
  labels : Nat
  deriving DecidableEq, Repr

def LabelMismatch.message (e : LabelMismatch) : String :=
  "Type pack has " ++ shown e.types ++ " types but " ++ shown e.labels ++ " labels"

structure Visit where
  type : DataType
  label : String
  deriving DecidableEq, Repr

def vectorWidths : List Nat := [1, 2, 3, 4, 8, 16]

def vectorLabel (element : String) (width : Nat) : String :=
  "vec<" ++ element ++ ", " ++ shown width ++ ">"

def Visit.withVectors (v : Visit) : List Visit :=
  v :: vectorWidths.map fun w ↦ ⟨.vector v.type w, vectorLabel v.label w⟩

variable {σ : Type} {labels : List String} {visit : σ → Visit → σ}

/-- Visits the types in turn, from the place `i` on. Each is visited under the label at its place,
of which there may be none. -/
def visitEach (labels : List String) (visit : σ → Visit → σ) : List DataType → Nat → σ → Option σ
  | [], _, s => some s
  | t :: types, i, s =>
    labels[i]?.bind fun label ↦ visitEach labels visit types (i + 1) (visit s ⟨t, label⟩)

theorem visitEach_eq_some {types : List DataType} {i : Nat} (h : i + types.length ≤ labels.length)
    (s : σ) : visitEach labels visit types i s =
      some ((types.zipWith Visit.mk (labels.drop i)).foldl visit s) := by
  induction types generalizing i s with
  | nil => rfl
  | cons t types ih =>
    rw [List.length_cons] at h
    have hi : i < labels.length := by omega
    rw [visitEach, List.getElem?_eq_getElem hi, List.drop_eq_getElem_cons hi]
    exact ih (by omega) (visit s ⟨t, labels[i]⟩)

def forTypeAndVectors (visit : σ → Visit → σ) (s : σ) (v : Visit) : σ :=
  let vector (width : Nat) : Visit := ⟨.vector v.type width, vectorLabel v.label width⟩
  let s := visit s v
  let s := visit s (vector 1)
  let s := visit s (vector 2)
  let s := visit s (vector 3)
  let s := visit s (vector 4)
  let s := visit s (vector 8)
  visit s (vector 16)

namespace TypePack

def ofLabels (types : List DataType) (labels : List String) : Except LabelMismatch TypePack :=
  if h : labels.length = types.length then .ok ⟨types, labels, h⟩
  else .error ⟨types.length, labels.length⟩

def scalars : TypePack where
  types := Scalar.all.map .scalar
  labels := Scalar.all.map Scalar.name
  one_label_each := by simp

def size (p : TypePack) : Nat := p.types.length

def visits (p : TypePack) : List Visit := p.types.zipWith Visit.mk p.labels

def visitsWithVectors (p : TypePack) : List Visit := p.visits.flatMap Visit.withVectors

theorem visitEach_types (p : TypePack) (visit : σ → Visit → σ) (start : σ) :
    visitEach p.labels visit p.types 0 start = some (p.visits.foldl visit start) :=
  visitEach_eq_some (Nat.le_of_eq (by rw [p.one_label_each, Nat.zero_add])) start

def forAllTypes (p : TypePack) (visit : σ → Visit → σ) (start : σ) : σ :=
  (visitEach p.labels visit p.types 0 start).get
    (Option.isSome_of_eq_some (p.visitEach_types visit start))

def forAllTypesAndVectors (p : TypePack) (visit : σ → Visit → σ) (start : σ) : σ :=
  p.forAllTypes (forTypeAndVectors visit) start

end TypePack

variable {α : Type} [Shown α]

def labelled (values : List α) : List (α × String) := values.map fun a ↦ (a, shown a)

end Conformance.Coverage
