import Conformance.Config.Environment
import Conformance.Config.OfJson
import Conformance.Config.OfToml
import Conformance.Json.Overlay
import Conformance.Pattern.Reading
import Conformance.Toml.Untyped

namespace Conformance

/-- What the readers of settings and of patterns, which are the work of others, are taken to do:
what they say of a text that they refuse, and how many steps a pattern may take. -/
structure Readers where
  tomlComplaint : String → String := fun _ ↦ "malformed document"
  patternComplaint : String → String := fun _ ↦ "malformed pattern"
  patternLimit : Nat := Pattern.weightLimit

structure ConfigSource where
  file : Option String := none
  searchDir : Option String := none
  /-- The profile to select, before the one that the environment names. -/
  profile : Option String := none
  useEnvironment : Bool := true
  readers : Readers := {}

namespace ConfigSource

def file? (s : ConfigSource) (files : FileTree) : Option String :=
  match s.file with
  | some path => some path
  | none => (s.searchDir.map fun dir ↦ Path.join dir defaultConfigFile).filter files.isFile

def profile? (s : ConfigSource) (env : Environment) : Option String :=
  s.profile.or (if s.useEnvironment then env.profile? else none)

end ConfigSource

namespace Config

def ofTomlFile (files : FileTree) (path : String) (readers : Readers := {}) :
    Except HarnessError Config :=
  match files.readText path with
  | .error e => .error (.config (.unreadable path e))
  | .ok text => match ofTomlText? text with
    | some c => .ok c
    | none => .error (.malformedToml (readers.tomlComplaint text))

def readFile (files : FileTree) (path : String) (readers : Readers := {}) :
    Except HarnessError Json :=
  match files.readText path with
  | .error e => .error (.config (.unreadable path e))
  | .ok text => match Toml.ofUntypedText? text with
    | some t => .ok t.toJson
    | none => .error (.malformedToml (readers.tomlComplaint text))

def profiles (file : Json) : Dictionary Json :=
  match file.member? "profiles" with
  | some (.obj ms) => ms
  | _ => []

def loadFile (files : FileTree) (path : String) (readers : Readers := {}) :
    Except HarnessError (Config × Dictionary Json) := do
  let j ← readFile files path readers
  match ofJson j with
  | .ok c => return (c, profiles j)
  | .error e => .error (.config (.illTyped path e))

def withProfile (c : Config) (known : Dictionary Json) (name : String) :
    Except HarnessError Config :=
  match known.get? name with
  | none => .error (.config (.unknownProfile name known.keys))
  | some top => match ofJson (c.toJson.overlay top) with
    | .ok c => .ok c
    | .error e => .error (.config (.unfitProfile name e))

def load (s : ConfigSource) (files : FileTree) (env : Environment) :
    Except HarnessError (Config × List Notice) := do
  let (c, known) ← match s.file? files with
    | some path => loadFile files path s.readers
    | none => pure ({}, [])
  let c ← match s.profile? env with
    | some name => c.withProfile known name
    | none => pure c
  return if s.useEnvironment then env.applyTo c else (c, [])

end Config

end Conformance
