import Conformance.Config.Environment

namespace Conformance

structure CommandLine where
  filter : Option String := none
  exact : Bool := false
  regex : Bool := false
  exclude : List String := []
  list : Bool := false
  config : Option String := none
  profile : Option String := none
  timeout : Option Nat := none
  threads : Option Nat := none
  showNotes : Option NotesPolicy := none
  json : Option String := none
  verbose : Bool := false
  deriving DecidableEq, Repr, Inhabited

inductive UsageError
  | unknownArgument
  | missingValue
  | invalidValue
  | conflict
  | surplusValue
  | helpWanted
  | versionWanted
  deriving DecidableEq, Repr

def UsageError.exitCode : UsageError → Nat
  | helpWanted | versionWanted => 0
  | _ => 2

namespace CommandLine

def usage : String := "usage: cts-harness [options] [filter]"

inductive Switch
  | exact
  | regex
  | list
  | verbose
  | help
  | version
  deriving DecidableEq, Repr

inductive Setting
  | exclude
  | config
  | profile
  | timeout
  | threads
  | showNotes
  | json
  deriving DecidableEq, Repr

def longName? : String → Option (Switch ⊕ Setting)
  | "exact" => some (.inl .exact)
  | "regex" => some (.inl .regex)
  | "list" => some (.inl .list)
  | "verbose" => some (.inl .verbose)
  | "help" => some (.inl .help)
  | "version" => some (.inl .version)
  | "exclude" => some (.inr .exclude)
  | "config" => some (.inr .config)
  | "profile" => some (.inr .profile)
  | "timeout" => some (.inr .timeout)
  | "threads" => some (.inr .threads)
  | "show-notes" => some (.inr .showNotes)
  | "json" => some (.inr .json)
  | _ => none

def shortName? : Char → Option Switch
  | 'v' => some .verbose
  | 'h' => some .help
  | 'V' => some .version
  | _ => none

def turnOn (c : CommandLine) : Switch → Except UsageError CommandLine
  | .exact => if c.exact then .error .conflict else .ok { c with exact := true }
  | .regex => if c.regex then .error .conflict else .ok { c with regex := true }
  | .list => if c.list then .error .conflict else .ok { c with list := true }
  | .verbose => if c.verbose then .error .conflict else .ok { c with verbose := true }
  | .help => .error .helpWanted
  | .version => .error .versionWanted

variable {α : Type}

def once (earlier : Option α) (value : Except UsageError α) : Except UsageError (Option α) :=
  if earlier.isSome then .error .conflict else value.map some

def readValue (value : Option α) : Except UsageError α :=
  match value with
  | some a => .ok a
  | none => .error .invalidValue

def readPath (raw : String) : Except UsageError String :=
  if raw = "" then .error .missingValue else .ok raw

def set (c : CommandLine) (raw : String) : Setting → Except UsageError CommandLine
  | .exclude => .ok { c with exclude := c.exclude ++ [raw] }
  | .config => do return { c with config := ← once c.config (readPath raw) }
  | .profile => do return { c with profile := ← once c.profile (.ok raw) }
  | .timeout => do return { c with timeout := ← once c.timeout (readValue (read? raw)) }
  | .threads => do return { c with threads := ← once c.threads (readValue (read? raw)) }
  | .showNotes => do
    return { c with showNotes := ← once c.showNotes (readValue (NotesPolicy.ofName? raw)) }
  | .json => do return { c with json := ← once c.json (readPath raw) }

/-- A command line up to some argument, and the option whose value is still to come or to be looked
at. -/
structure Progress where
  line : CommandLine := {}
  pending : Option (Setting × Option String) := none
  operandsOnly : Bool := false

namespace Progress

/-- Looks at the value of the pending option, which is put off to the next known option or operand,
or to the end. -/
def settle (p : Progress) : Except UsageError Progress :=
  match p.pending with
  | none => .ok p
  | some (_, none) => .error .missingValue
  | some (s, some raw) => do return { p with line := ← p.line.set raw s, pending := none }

def turnOn (p : Progress) (s : Switch) : Except UsageError Progress := do
  let p ← p.settle
  return { p with line := ← p.line.turnOn s }

def turnOnAll (p : Progress) : List Char → Except UsageError Progress
  | [] => .ok p
  | c :: cs => do
    match shortName? c with
    | some s => (← p.turnOn s).turnOnAll cs
    | none => .error .unknownArgument

def readLong (p : Progress) (text : List Char) : Except UsageError Progress :=
  let name := String.ofList (text.takeWhile (· ≠ '='))
  let value := match text.dropWhile (· ≠ '=') with
    | [] => none
    | _ :: rest => some (String.ofList rest)
  match longName? name, value with
  | none, _ => .error .unknownArgument
  | some (.inl s), none => p.turnOn s
  | some (.inl _), some _ => .error .surplusValue
  | some (.inr s), none => do return { ← p.settle with pending := some (s, none) }
  | some (.inr s), some raw => do
    let p ← p.settle
    return { p with line := ← p.line.set raw s }

def readOperand (p : Progress) (text : String) : Except UsageError Progress := do
  if p.line.filter.isSome then .error .unknownArgument
  else
    let p ← p.settle
    return { p with line := { p.line with filter := some text } }

def readArgument (p : Progress) (text : String) : Except UsageError Progress :=
  if p.operandsOnly then p.readOperand text
  else match text.toList with
    | ['-', '-'] => .ok { p with operandsOnly := true }
    | '-' :: '-' :: rest => p.readLong rest
    | '-' :: c :: rest => p.turnOnAll (c :: rest)
    | _ => match p.pending with
      | some (s, none) => .ok { p with pending := some (s, some text) }
      | _ => p.readOperand text

end Progress

def ofArguments (arguments : List String) : Except UsageError CommandLine := do
  let p ← arguments.foldlM Progress.readArgument {}
  let p ← p.settle
  if p.line.exact && p.line.regex then .error .conflict else return p.line

def applyTo (c : CommandLine) (config : Config) : Config where
  filter := {
    pattern := c.filter.or config.filter.pattern
    exact := !c.regex && (c.exact || config.filter.exact)
    regex := c.regex || (config.filter.regex && !c.exact)
    exclude := config.filter.exclude ++ c.exclude }
  run := { timeout := c.timeout.or config.run.timeout }
  report := {
    showNotes := c.showNotes.getD config.report.showNotes
    json := c.json.or config.report.json }
  device := { config.device with threads := c.threads.getD config.device.threads }
  parameters := config.parameters
  verbose := c.verbose || config.verbose

end CommandLine

end Conformance
