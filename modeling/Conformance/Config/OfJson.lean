import Conformance.Config.Basic
import Conformance.Config.Mismatch
import Conformance.Word

namespace Conformance

namespace Config

def found : Json → Found
  | .null => .null
  | .bool b => .bool b
  | .int n => .int n
  | .float x => .float x
  | .str s => .text s
  | .arr _ => .sequence
  | .obj _ => .map

variable {α : Type}

abbrev Typed (α : Type) := Json → Except Mismatch α

def wrongType (wanted : String) (j : Json) : Except Mismatch α := .error (.type (found j) wanted)

def bool : Typed Bool
  | .bool b => .ok b
  | j => wrongType "a boolean" j

def word (wanted : String) : Typed Nat
  | .int (.ofNat n) => if n < wordLimit then .ok n else wrongType wanted (.int n)
  | .int n => .error (.value (.int n) wanted)
  | j => wrongType wanted j

def text (wanted : String) : Typed String
  | .str s => .ok s
  | j => wrongType wanted j

def optionally (read : Typed α) : Typed (Option α)
  | .null => .ok none
  | j => (read j).map some

def texts : Typed (List String)
  | .arr es => es.mapM (text "a string")
  | j => wrongType "a sequence" j

def textMap : Typed (Dictionary String)
  | .obj ms => ms.mapM fun (k, j) ↦ (text "a string" j).map fun s ↦ (k, s)
  | j => wrongType "a map" j

def policyNamed (name : String) : Except Mismatch NotesPolicy :=
  match NotesPolicy.ofName? name with
  | some p => .ok p
  | none => .error (.unknownName name ["always", "never", "on-failure"])

/-- A policy is its name, or an object with that name as its one member and no value. -/
def policy : Typed NotesPolicy
  | .str name => policyNamed name
  | .obj [(name, j)] => do
    let p ← policyNamed name
    match j with
    | .null => return p
    | j => wrongType "unit" j
  | .obj _ => .error (.value .map "map with a single key")
  | j => wrongType "string or map" j

def member (name : String) (read : Typed α) (default : α) (ms : List (String × Json)) :
    Except Mismatch α :=
  match ms.lookup name with
  | none => .ok default
  | some j => read j

def element (index : Nat) (read : Typed α) (default : α) (es : List Json) : Except Mismatch α :=
  match es[index]? with
  | none => .ok default
  | some j => read j

def requiredElement (index : Nat) (wanted : String) (read : Typed α) (es : List Json) :
    Except Mismatch α :=
  match es[index]? with
  | none => .error (.tooShort index wanted)
  | some j => read j

def noMoreThan (count : Nat) (es : List Json) : Except Mismatch Unit :=
  if count < es.length then .error (.tooLong es.length) else .ok ()

end Config

open Config

def FilterConfig.ofJson : Typed FilterConfig
  | .obj ms => do
    let exact ← member "exact" bool false ms
    let exclude ← member "exclude" texts [] ms
    let pattern ← member "pattern" (optionally (text "a string")) none ms
    let regex ← member "regex" bool false ms
    return ⟨pattern, exact, regex, exclude⟩
  | .arr es => do
    let pattern ← requiredElement 0 "struct FilterConfig with 4 elements"
      (optionally (text "a string")) es
    let exact ← element 1 bool false es
    let regex ← element 2 bool false es
    let exclude ← element 3 texts [] es
    noMoreThan 4 es
    return ⟨pattern, exact, regex, exclude⟩
  | j => wrongType "struct FilterConfig" j

def RunConfig.ofJson : Typed RunConfig
  | .obj ms => do return ⟨← member "timeout" (optionally (word "u64")) none ms⟩
  | .arr es => do
    let timeout ← requiredElement 0 "struct RunConfig with 1 element" (optionally (word "u64")) es
    noMoreThan 1 es
    return ⟨timeout⟩
  | j => wrongType "struct RunConfig" j

def ReportConfig.ofJson : Typed ReportConfig
  | .obj ms => do
    let json ← member "json" (optionally (text "path string")) none ms
    let showNotes ← member "show-notes" policy .onFailure ms
    return ⟨showNotes, json⟩
  | .arr es => do
    let showNotes ← element 0 policy .onFailure es
    let json ← requiredElement 1 "struct ReportConfig with 2 elements"
      (optionally (text "path string")) es
    noMoreThan 2 es
    return ⟨showNotes, json⟩
  | j => wrongType "struct ReportConfig" j

def DeviceConfig.ofJson : Typed DeviceConfig
  | .obj ms => do
    let atomic64 ← member "atomic64" bool true ms
    let fp64 ← member "fp64" bool true ms
    let maxWorkGroupSize ← member "max-work-group-size" (word "usize") 256 ms
    let subGroupSize ← member "sub-group-size" (optionally (word "usize")) none ms
    let threads ← member "threads" (word "usize") 0 ms
    return ⟨threads, maxWorkGroupSize, subGroupSize, fp64, atomic64⟩
  | .arr es => do
    let threads ← element 0 (word "usize") 0 es
    let maxWorkGroupSize ← element 1 (word "usize") 256 es
    let subGroupSize ← element 2 (optionally (word "usize")) none es
    let fp64 ← element 3 bool true es
    let atomic64 ← element 4 bool true es
    noMoreThan 5 es
    return ⟨threads, maxWorkGroupSize, subGroupSize, fp64, atomic64⟩
  | j => wrongType "struct DeviceConfig" j

def Config.ofJson : Typed Config
  | .obj ms => do
    let device ← member "device" DeviceConfig.ofJson {} ms
    let filter ← member "filter" FilterConfig.ofJson {} ms
    let parameters ← member "parameters" textMap [] ms
    let report ← member "report" ReportConfig.ofJson {} ms
    let run ← member "run" RunConfig.ofJson {} ms
    let verbose ← member "verbose" bool false ms
    return ⟨filter, run, report, device, parameters, verbose⟩
  | .arr es => do
    let filter ← element 0 FilterConfig.ofJson {} es
    let run ← element 1 RunConfig.ofJson {} es
    let report ← element 2 ReportConfig.ofJson {} es
    let device ← element 3 DeviceConfig.ofJson {} es
    let parameters ← element 4 textMap [] es
    let verbose ← element 5 bool false es
    noMoreThan 6 es
    return ⟨filter, run, report, device, parameters, verbose⟩
  | j => wrongType "struct Config" j

end Conformance
