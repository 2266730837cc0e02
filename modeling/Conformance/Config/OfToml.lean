import Conformance.Config.Basic
import Conformance.Toml.Document
import Conformance.Word

namespace Conformance

namespace Toml

variable {α : Type}

def asTable? : Toml → Option (List (String × Toml))
  | table entries => some entries
  | dateTime d => some [(dateTimeKey, string d.text)]
  | _ => none

def asString? : Toml → Option String
  | string s => some s
  | _ => none

def asBool? : Toml → Option Bool
  | boolean b => some b
  | _ => none

def asWord? : Toml → Option Nat
  | integer (.ofNat n) => if n < wordLimit then some n else none
  | _ => none

def asStrings? : Toml → Option (List String)
  | array es => es.mapM asString?
  | _ => none

def asStringMap? (t : Toml) : Option (Dictionary String) := do
  return Dictionary.ofList (← (← t.asTable?).mapM fun (k, v) ↦ v.asString?.map fun s ↦ (k, s))

/-- What may stand for no value: an empty table or an empty array. -/
def isEmpty : Toml → Bool
  | table [] => true
  | array [] => true
  | _ => false

def asPolicy? : Toml → Option NotesPolicy
  | string s => NotesPolicy.ofName? s
  | table [(s, v)] => if v.isEmpty then NotesPolicy.ofName? s else none
  | _ => none

def entry (name : String) (read : Toml → Option α) (default : α) (entries : List (String × Toml)) :
    Option α :=
  match entries.lookup name with
  | none => some default
  | some v => read v

def element (index : Nat) (read : Toml → Option α) (default : α) (es : List Toml) : Option α :=
  match es[index]? with
  | none => some default
  | some v => read v

def requiredElement (index : Nat) (read : Toml → Option α) (es : List Toml) : Option α :=
  es[index]?.bind read

def asGroup? (ofEntries : List (String × Toml) → Option α) (ofElements : List Toml → Option α)
    (t : Toml) : Option α :=
  match t with
  | array es => ofElements es
  | _ => t.asTable?.bind ofEntries

end Toml

open Toml

def FilterConfig.ofToml? : Toml → Option FilterConfig :=
  asGroup?
    (fun entries ↦ do
      return ⟨← entry "pattern" (fun v ↦ v.asString?.map some) none entries,
        ← entry "exact" asBool? false entries, ← entry "regex" asBool? false entries,
        ← entry "exclude" asStrings? [] entries⟩)
    (fun es ↦ do
      return ⟨some (← requiredElement 0 asString? es), ← element 1 asBool? false es,
        ← element 2 asBool? false es, ← element 3 asStrings? [] es⟩)

def RunConfig.ofToml? : Toml → Option RunConfig :=
  asGroup? (fun entries ↦ do return ⟨← entry "timeout" (fun v ↦ v.asWord?.map some) none entries⟩)
    (fun es ↦ do return ⟨some (← requiredElement 0 asWord? es)⟩)

def ReportConfig.ofToml? : Toml → Option ReportConfig :=
  asGroup?
    (fun entries ↦ do
      return ⟨← entry "show-notes" asPolicy? .onFailure entries,
        ← entry "json" (fun v ↦ v.asString?.map some) none entries⟩)
    (fun es ↦ do
      return ⟨← element 0 asPolicy? .onFailure es, some (← requiredElement 1 asString? es)⟩)

def DeviceConfig.ofToml? : Toml → Option DeviceConfig :=
  asGroup?
    (fun entries ↦ do
      return ⟨← entry "threads" asWord? 0 entries,
        ← entry "max-work-group-size" asWord? 256 entries,
        ← entry "sub-group-size" (fun v ↦ v.asWord?.map some) none entries,
        ← entry "fp64" asBool? true entries, ← entry "atomic64" asBool? true entries⟩)
    (fun es ↦ do
      return ⟨← element 0 asWord? 0 es, ← element 1 asWord? 256 es,
        ← element 2 (fun v ↦ v.asWord?.map some) none es, ← element 3 asBool? true es,
        ← element 4 asBool? true es⟩)

def Config.ofToml? (t : Toml) : Option Config := do
  let entries ← t.asTable?
  return ⟨← entry "filter" FilterConfig.ofToml? {} entries,
    ← entry "run" RunConfig.ofToml? {} entries, ← entry "report" ReportConfig.ofToml? {} entries,
    ← entry "device" DeviceConfig.ofToml? {} entries,
    ← entry "parameters" asStringMap? [] entries, ← entry "verbose" asBool? false entries⟩

def Config.ofTomlText? (text : String) : Option Config := (Toml.ofText? text).bind Config.ofToml?

end Conformance
