import Conformance.Config.Basic
import Conformance.HarnessError
import Conformance.Notice
import Conformance.Readable

namespace Conformance

abbrev Environment := Dictionary String

namespace Environment

/-- The variables of entries that have an equals sign between a name and a value. -/
def ofEntries (entries : List String) : Environment :=
  Dictionary.ofList (entries.filterMap fun entry ↦
    match entry.toList.dropWhile (· ≠ '=') with
    | [] => none
    | _ :: value => some (String.ofList (entry.toList.takeWhile (· ≠ '=')), String.ofList value))

def namespaceText : String := "CTS_HARNESS_"

def variableName (key : String) : String := namespaceText ++ key

def parameterText : String := namespaceText ++ "VAR_"

def setting? (env : Environment) (key : String) : Option String :=
  (env.get? (variableName key)).filter (· ≠ "")

def profile? (env : Environment) : Option String := env.setting? "PROFILE"

def behind? (start text : String) : Option String :=
  if start.toList.isPrefixOf text.toList then
    some (String.ofList (text.toList.drop start.toList.length))
  else none

def parameters (env : Environment) : Dictionary String :=
  Dictionary.ofList (env.filterMap fun (k, v) ↦
    ((behind? parameterText k).filter (· ≠ "")).map fun name ↦ (name, v))

def trimmed (cs : List Char) : List Char :=
  ((cs.dropWhile Unicode.isBlank).reverse.dropWhile Unicode.isBlank).reverse

def commaSeparated (text : String) : List String :=
  (((text.toList.splitOn ',').map trimmed).filter (· ≠ [])).map String.ofList

def isTrue (text : String) : Bool :=
  let lower := String.ofList (text.toList.map Char.toLower)
  lower == "1" || lower == "true" || lower == "yes"

def speaker : String := "cts_harness::config::env"

def invalidNotice (key raw : String) : Notice :=
  ⟨.warn, speaker, "ignoring " ++ variableName key ++ "=" ++ raw ++ ": not a valid value", []⟩

abbrev Change := String → Config → Config × List Notice

def always (set : String → Config → Config) : Change := fun raw c ↦ (set raw c, [])

def ifNumber (key : String) (set : Nat → Config → Config) : Change := fun raw c ↦
  match (read? raw : Option Nat) with
  | some n => (set n c, [])
  | none => (c, [invalidNotice key raw])

end Environment

def NotesPolicy.ofText (text : String) : Except HarnessError NotesPolicy :=
  match NotesPolicy.ofName? text with
  | some p => .ok p
  | none => .error (.invalidSetting "report.show-notes" text)

namespace Environment

def setPolicy : Change := fun raw c ↦
  match NotesPolicy.ofText raw with
  | .ok p => ({ c with report.showNotes := p }, [])
  | .error e =>
    (c, [⟨.warn, speaker, "ignoring " ++ variableName "SHOW_NOTES" ++ ": " ++ e.message, []⟩])

/-- The variables that change one setting each, in the order in which they are looked at. -/
def changes : List (String × Change) :=
  [("FILTER", always fun raw c ↦ { c with filter.pattern := some raw }),
    ("EXCLUDE", always fun raw c ↦ { c with filter.exclude := commaSeparated raw }),
    ("TIMEOUT", ifNumber "TIMEOUT" fun n c ↦ { c with run.timeout := some n }),
    ("THREADS", ifNumber "THREADS" fun n c ↦ { c with device.threads := n }),
    ("SUB_GROUP_SIZE",
      ifNumber "SUB_GROUP_SIZE" fun n c ↦ { c with device.subGroupSize := some n }),
    ("FP64", always fun raw c ↦ { c with device.fp64 := isTrue raw }),
    ("ATOMIC64", always fun raw c ↦ { c with device.atomic64 := isTrue raw }),
    ("SHOW_NOTES", setPolicy),
    ("VERBOSE", always fun raw c ↦ { c with verbose := isTrue raw })]

def changed (env : Environment) : List (String × Change) → Config → Config × List Notice
  | [], c => (c, [])
  | (key, change) :: rest, c =>
    match env.setting? key with
    | none => env.changed rest c
    | some raw =>
      let (c, notices) := change raw c
      let (c, further) := env.changed rest c
      (c, notices ++ further)

def applyTo (env : Environment) (c : Config) : Config × List Notice :=
  let (c, notices) := env.changed changes c
  ({ c with parameters := env.parameters.foldl (fun d e ↦ d.insert e.1 e.2) c.parameters }, notices)

def active (env : Environment) : List (String × String) :=
  ("PROFILE" :: changes.map (·.1)).filterMap fun key ↦
    (env.setting? key).map fun raw ↦ (variableName key, raw)

end Environment

end Conformance
