namespace Conformance

/-- Entries in increasing order of their names. Names are ordered by code points, which is also the
order of their UTF-8 bytes. -/
abbrev Dictionary (α : Type) := List (String × α)

namespace Dictionary

variable {α : Type}

def get? (d : Dictionary α) (k : String) : Option α := d.lookup k

def insert (k : String) (a : α) : Dictionary α → Dictionary α
  | [] => [(k, a)]
  | (k', a') :: rest =>
    if k = k' then (k, a) :: rest
    else if k < k' then (k, a) :: (k', a') :: rest
    else (k', a') :: insert k a rest

/-- The later of two values of the same name counts. -/
def ofList (entries : List (String × α)) : Dictionary α :=
  entries.foldl (fun d e ↦ d.insert e.1 e.2) []

def keys (d : Dictionary α) : List String := d.map (·.1)

end Dictionary

end Conformance
