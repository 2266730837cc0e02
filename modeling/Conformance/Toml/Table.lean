import Conformance.Toml.Basic

namespace Conformance.Toml

mutual

inductive Item
  | value (v : Toml)
  | table (t : Table)
  /-- The tables of an array that headers extend, from the last to the first. -/
  | tables (ts : List Table)

inductive Table
  /-- `implicit` tables have no header of their own; `dotted` ones come from dotted keys. -/
  | mk (implicit dotted : Bool) (entries : List (String × Item))

end

namespace Table

def isImplicit : Table → Bool
  | mk implicit _ _ => implicit

def isDotted : Table → Bool
  | mk _ dotted _ => dotted

def entries : Table → List (String × Item)
  | mk _ _ entries => entries

def empty : Table := mk false false []

instance : Inhabited Table := ⟨empty⟩

def get? (t : Table) (k : String) : Option Item := t.entries.lookup k

def set (t : Table) (k : String) (i : Item) : Table :=
  mk t.isImplicit t.isDotted
    (if (t.get? k).isSome then t.entries.map fun e ↦ if e.1 == k then (k, i) else e
    else t.entries ++ [(k, i)])

def erase (t : Table) (k : String) : Table :=
  mk t.isImplicit t.isDotted (t.entries.filter fun e ↦ e.1 != k)

/-- Changes the table at the end of a path, making the tables on the way that are missing. Dotted
keys do not lead through a table that has a header, and nothing leads through a value. -/
def update (dotted : Bool) (change : Table → Option Table) : List String → Table → Option Table
  | [], t => change t
  | k :: path, t =>
    match t.get? k with
    | none => do return t.set k (.table (← update dotted change path (mk true dotted [])))
    | some (.value _) => none
    | some (.table inner) =>
      if dotted && !inner.isImplicit then none
      else do return t.set k (.table (← update dotted change path inner))
    | some (.tables []) => none
    | some (.tables (last :: earlier)) => do
      return t.set k (.tables ((← update dotted change path last) :: earlier))

def addValue (t : Table) (path : List String) (k : String) (v : Toml) : Option Table :=
  t.update true (fun inner ↦
    if inner.isDotted == path.isEmpty || (inner.get? k).isSome then none
    else some (inner.set k (.value v))) path

end Table

mutual

def Item.toToml : Item → Toml
  | .value v => v
  | .table t => t.toToml
  | .tables ts => .array (tablesToToml ts).reverse

def Table.toToml : Table → Toml
  | .mk _ _ entries => .table (entriesToToml entries)

def tablesToToml : List Table → List Toml
  | [] => []
  | t :: ts => t.toToml :: tablesToToml ts

def entriesToToml : List (String × Item) → List (String × Toml)
  | [] => []
  | (k, i) :: rest => (k, i.toToml) :: entriesToToml rest

end

def inlineTable? (pairs : List (List String × String × Toml)) : Option Toml := do
  let t ← pairs.foldlM (fun t (path, k, v) ↦ t.addValue path k v) Table.empty
  return t.toToml

end Conformance.Toml
