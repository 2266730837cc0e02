import Conformance.Config.Environment
import Conformance.Notice
import Conformance.Readable
import Conformance.Unicode.Category

namespace Conformance

namespace LogFilter

/-- What a directive allows: the ranks of levels up to `most`, where zero allows nothing. -/
structure Directive where
  speaker : Option String
  most : Nat
  deriving DecidableEq, Repr

def level? (text : String) : Option Nat :=
  match (read? text : Option Nat) with
  | some n => if n ≤ 5 then some n else none
  | none => match String.ofList (text.toList.map Char.toLower) with
    | "off" => some 0
    | "error" => some 1
    | "warn" => some 2
    | "info" => some 3
    | "debug" => some 4
    | "trace" => some 5
    | _ => none

def wordDirective (word : String) : Directive :=
  match level? word with
  | some n => ⟨none, n⟩
  | none => ⟨some word, 5⟩

def isStart (c : Char) : Bool :=
  c = '-' || c = ':' || c = '_' || Unicode.isAlphabetic c || (Unicode.category c).isNumber

/-- A span in brackets, and perhaps a level. Notices have no span, so this allows none of them. -/
def readSpan (cs : List Char) : Option (Option Directive) :=
  match cs.dropWhile (· ≠ ']') with
  | [']'] => some none
  | ']' :: '=' :: level =>
    if level.isEmpty || (level? (String.ofList level)).isSome then some none else none
  | _ => none

def readBare (cs : List Char) : Option (Option Directive) :=
  match cs with
  | [] => none
  | c :: _ =>
    if c = '[' then readSpan cs
    else if !isStart c then none
    else match cs.dropWhile fun c ↦ c ≠ '=' && c ≠ '[' with
      | [] => some (some (wordDirective (String.ofList cs)))
      | '=' :: level =>
        let speaker := String.ofList (cs.takeWhile fun c ↦ c ≠ '=' && c ≠ '[')
        if level.isEmpty then some (some ⟨some speaker, 5⟩)
        else (level? (String.ofList level)).map fun n ↦ some ⟨some speaker, n⟩
      | span => readSpan span

/-- One directive. Blanks around a name belong to the name, so that it names no part; they are
refused around a level. -/
def readDirective (cs : List Char) : Option (Option Directive) :=
  let bare := Environment.trimmed cs
  if bare.length = cs.length then readBare cs
  else if bare.contains '=' then none
  else (readBare bare).map fun _ ↦ none

end LogFilter

structure LogFilter where
  directives : List LogFilter.Directive

namespace LogFilter

def upTo (l : Level) : LogFilter := ⟨[⟨none, l.rank⟩]⟩

def ofText? (text : String) : Option LogFilter := do
  let parts := (text.splitOn ",").filter (· ≠ "")
  if parts.isEmpty then return upTo .error
  else return ⟨(← parts.mapM fun part ↦ readDirective part.toList).filterMap id⟩

def Directive.fit? (d : Directive) (speaker : String) : Option Nat :=
  match d.speaker with
  | none => some 0
  | some start =>
    if start.toList.isPrefixOf speaker.toList then some (start.toList.length + 1) else none

/-- The directive that decides about a speaker; of two that name it alike, the later one. -/
def deciding? (f : LogFilter) (speaker : String) : Option Directive :=
  f.directives.foldl
    (fun best d ↦
      match d.fit? speaker, best.bind (·.fit? speaker) with
      | none, _ => best
      | some _, none => some d
      | some n, some m => if m ≤ n then some d else best)
    none

def admits (f : LogFilter) (n : Notice) : Bool :=
  match f.deciding? n.speaker with
  | some d => n.level.rank ≤ d.most
  | none => false

end LogFilter

end Conformance
