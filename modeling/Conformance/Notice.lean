import Conformance.Shown

namespace Conformance

inductive Level
  | error
  | warn
  | info
  | debug
  | trace
  deriving DecidableEq, Repr, Inhabited

namespace Level

def rank : Level → Nat
  | error => 1
  | warn => 2
  | info => 3
  | debug => 4
  | trace => 5

def name : Level → String
  | error => "error"
  | warn => "warn"
  | info => "info"
  | debug => "debug"
  | trace => "trace"

def title : Level → String
  | error => "ERROR"
  | warn => "WARN"
  | info => "INFO"
  | debug => "DEBUG"
  | trace => "TRACE"

end Level

inductive FieldValue
  | text (s : String)
  | number (n : Nat)
  deriving DecidableEq, Repr

instance : Shown FieldValue := ⟨fun | .text s => shown s | .number n => shown n⟩

structure Notice where
  level : Level
  /-- The part of the harness that speaks, by the name that log filters know it by. -/
  speaker : String
  message : String
  fields : List (String × FieldValue) := []
  deriving DecidableEq, Repr

def Notice.line (n : Notice) : String :=
  " ".intercalate (n.level.title :: n.message :: n.fields.map fun (k, v) ↦ k ++ "=" ++ shown v)

end Conformance
