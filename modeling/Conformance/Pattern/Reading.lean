import Conformance.Pattern.Basic
import Conformance.Pattern.Named
import Conformance.Text.Numeral
import Conformance.Word

namespace Conformance.Pattern

structure Flags where
  ignoreCase : Bool := false
  multiLine : Bool := false
  dotAll : Bool := false
  crlf : Bool := false
  unicode : Bool := true
  extended : Bool := false

namespace Flags

def set? (f : Flags) (on : Bool) : Char → Option Flags
  | 'i' => some { f with ignoreCase := on }
  | 'm' => some { f with multiLine := on }
  | 's' => some { f with dotAll := on }
  | 'R' => some { f with crlf := on }
  | 'u' => some { f with unicode := on }
  | 'x' => some { f with extended := on }
  | 'U' => some f
  | _ => none

def fold (f : Flags) (s : CharSet) : CharSet := if f.ignoreCase then .folded s else s

/-- Without Unicode only sets of ASCII characters can be told from bytes. -/
def confine (f : Flags) (s : CharSet) : Option CharSet :=
  if f.unicode then some s
  else if (List.range 128).any fun i ↦ s.contains (i + 128) then none
  else some (.inter s .ascii)

def literal (f : Flags) (c : Char) : Option CharSet :=
  if f.unicode || c.toNat < 128 then f.confine (f.fold (.single c)) else none

def dot (f : Flags) : Option CharSet :=
  f.confine
    (if f.dotAll then .all
    else .complement (.ranges (if f.crlf then [(10, 10), (13, 13)] else [(10, 10)])))

def lineStart (f : Flags) : Assertion := if f.multiLine then .lineStart f.crlf else .textStart

def lineEnd (f : Flags) : Assertion := if f.multiLine then .lineEnd f.crlf else .textEnd

end Flags

def dropBlanks (inComment : Bool) : List Char → List Char
  | [] => []
  | c :: cs =>
    if inComment then dropBlanks (c ≠ '\n') cs
    else if c = '#' then dropBlanks true cs
    else if Unicode.isBlank c then dropBlanks false cs
    else c :: cs

def Flags.skip (f : Flags) (cs : List Char) : List Char :=
  if f.extended then dropBlanks false cs else cs

inductive Escaped
  | char (c : Char)
  | set (s : CharSet)
  | assertion (a : Assertion)

def charOfCode? (code : Nat) : Option Char :=
  if code.isValidChar then some (Char.ofNat code) else none

def readHex (f : Flags) (acc : Nat) : Nat → List Char → Option (Nat × List Char)
  | 0, cs => some (acc, cs)
  | _ + 1, [] => none
  | n + 1, c :: cs => do
    let d ← Numeral.digitValue? 16 c
    readHex f (16 * acc + d) n (f.skip cs)

def readBraced (f : Flags) (cs : List Char) : Option (List Char × List Char) :=
  match cs.dropWhile (· ≠ '\x7d') with
  | [] => none
  | _ :: rest =>
    let body := cs.takeWhile (· ≠ '\x7d')
    some (if f.extended then body.filter (!Unicode.isBlank ·) else body, rest)

def readCode (f : Flags) (places : Nat) (cs : List Char) : Option (Char × List Char) :=
  match f.skip cs with
  | '\x7b' :: rest => do
    let (body, rest) ← readBraced f rest
    if body.isEmpty then none
    else
      let code ← Numeral.radixValue? 16 body
      return (← charOfCode? code, rest)
  | rest => do
    let (code, rest) ← readHex f 0 places rest
    return (← charOfCode? code, rest)

def readProperty (f : Flags) (negated : Bool) (cs : List Char) :
    Option (CharSet × List Char) := do
  let (s, rest) ← match f.skip cs with
    | '\x7b' :: rest => do
      let (body, rest) ← readBraced f rest
      pure (← namedSet? body, rest)
    | '\\' :: _ => none
    | c :: rest => do pure (← namedSet? [c], rest)
    | [] => none
  if f.unicode then
    let s := f.fold s
    return (if negated then .complement s else s, rest)
  else none

/-- A word boundary may say in braces which one it is. Braces that start with something else belong
to a repetition. -/
def readBoundary (f : Flags) (cs : List Char) : Option (Assertion × List Char) :=
  let ascii := !f.unicode
  match cs with
  | '\x7b' :: rest =>
    match f.skip rest with
    | [] => none
    | c :: _ =>
      if c.isAlpha || c = '-' then do
        let (body, rest) ← readBraced f rest
        let a ← match String.ofList body with
          | "start" => some (Assertion.wordStart ascii)
          | "end" => some (.wordEnd ascii)
          | "start-half" => some (.notAfterWord ascii)
          | "end-half" => some (.notBeforeWord ascii)
          | _ => none
        return (a, rest)
      else some (.wordBoundary ascii, cs)
  | _ => some (.wordBoundary ascii, cs)

def letterEscape? (ascii : Bool) : Char → Option Escaped
  | 'a' => some (.char '\x07')
  | 'f' => some (.char '\x0c')
  | 't' => some (.char '\t')
  | 'n' => some (.char '\n')
  | 'r' => some (.char '\r')
  | 'v' => some (.char '\x0b')
  | 'A' => some (.assertion .textStart)
  | 'z' => some (.assertion .textEnd)
  | 'B' => some (.assertion (.notWordBoundary ascii))
  | '<' => some (.assertion (.wordStart ascii))
  | '>' => some (.assertion (.wordEnd ascii))
  | _ => none

def readEscape (f : Flags) : List Char → Option (Escaped × List Char)
  | [] => none
  | c :: rest =>
    if c = 'x' || c = 'u' || c = 'U' then do
      let (c, rest) ← readCode f (if c = 'x' then 2 else if c = 'u' then 4 else 8) rest
      return (.char c, rest)
    else if c = 'p' || c = 'P' then do
      let (s, rest) ← readProperty f (c = 'P') rest
      return (.set s, rest)
    else if c = 'b' then do
      let (a, rest) ← readBoundary f rest
      return (.assertion a, rest)
    else match shorthand? f.unicode c, letterEscape? (!f.unicode) c with
      | some s, _ => some (.set s, rest)
      | none, some e => some (e, rest)
      | none, none =>
        if c.toNat < 128 && !c.isAlphanum then some (.char c, rest) else none

def readAsciiClass (f : Flags) (cs : List Char) : Option (CharSet × List Char) :=
  match cs with
  | ':' :: rest =>
    let (negated, rest) := match rest with
      | '^' :: rest => (true, rest)
      | rest => (false, rest)
    match rest.dropWhile (· ≠ ':') with
    | ':' :: ']' :: after => do
      let s ← asciiClass? (String.ofList (rest.takeWhile (· ≠ ':')))
      return (if negated then .complement (f.fold s) else s, after)
    | _ => none
  | _ => none

def readMember (f : Flags) : List Char → Option ((Char ⊕ CharSet) × List Char)
  | [] => none
  | '\\' :: rest => do
    match ← readEscape f rest with
    | (.char c, rest) => return (.inl c, rest)
    | (.set s, rest) => return (.inr s, rest)
    | (.assertion _, _) => none
  | c :: rest => some (.inl c, rest)

def memberSet (f : Flags) : Char ⊕ CharSet → Option CharSet
  | .inl c => if f.unicode || c.toNat < 128 then some (.single c) else none
  | .inr s => some s

def readRange (f : Flags) (cs : List Char) : Option (CharSet × List Char) := do
  let (first, rest) ← readMember f cs
  match f.skip rest with
  | [] => none
  | '-' :: rest =>
    match f.skip rest with
    | [] => none
    | c :: after =>
      if c = ']' || c = '-' then return (← memberSet f first, '-' :: rest)
      else
        let (last, rest) ← readMember f (c :: after)
        match first, last with
        | .inl a, .inl b =>
          if a.toNat ≤ b.toNat && (f.unicode || b.toNat < 128) then
            return (.ranges [(a.toNat, b.toNat)], rest)
          else none
        | _, _ => none
  | rest => return (← memberSet f first, rest)

structure ClassProgress where
  waiting : Option ((CharSet → CharSet → CharSet) × CharSet)
  operand : CharSet

namespace ClassProgress

def add (p : ClassProgress) (s : CharSet) : ClassProgress :=
  { p with operand := .union p.operand s }

def value (f : Flags) (p : ClassProgress) : CharSet :=
  match p.waiting with
  | none => p.operand
  | some (operation, first) => operation (f.fold first) (f.fold p.operand)

def await (f : Flags) (operation : CharSet → CharSet → CharSet) (p : ClassProgress) :
    ClassProgress :=
  ⟨some (operation, p.value f), .empty⟩

end ClassProgress

/-- The beginning of a class after its bracket: whether it is negated, and the hyphens or the
closing bracket that stand for themselves there. -/
def readClassOpening (f : Flags) (cs : List Char) : Bool × CharSet × List Char :=
  let (negated, cs) := match f.skip cs with
    | '^' :: rest => (true, f.skip rest)
    | rest => (false, rest)
  let hyphens := cs.takeWhile (· = '-')
  if hyphens.isEmpty then
    match cs with
    | ']' :: rest => (negated, .single ']', rest)
    | _ => (negated, .empty, cs)
  else (negated, .single '-', cs.dropWhile (· = '-'))

mutual

def readClass (f : Flags) : Nat → List Char → Option (CharSet × List Char)
  | 0, _ => none
  | fuel + 1, cs => do
    let (negated, s, rest) := readClassOpening f cs
    let (s, rest) ← readMembers f fuel ⟨none, s⟩ rest
    return (if negated then .complement (f.fold s) else f.fold s, rest)

def readMembers (f : Flags) : Nat → ClassProgress → List Char → Option (CharSet × List Char)
  | 0, _, _ => none
  | fuel + 1, p, cs =>
    match f.skip cs with
    | [] => none
    | ']' :: rest => some (p.value f, rest)
    | '&' :: '&' :: rest => readMembers f fuel (p.await f .inter) rest
    | '-' :: '-' :: rest => readMembers f fuel (p.await f .diff) rest
    | '~' :: '~' :: rest => readMembers f fuel (p.await f .symmDiff) rest
    | '[' :: rest =>
      match readAsciiClass f rest with
      | some (s, rest) => readMembers f fuel (p.add s) rest
      | none => do
        let (s, rest) ← readClass f fuel rest
        readMembers f fuel (p.add s) rest
    | rest => do
      let (s, rest) ← readRange f rest
      readMembers f fuel (p.add s) rest

end

def readCount (f : Flags) (cs : List Char) : Option (Option Nat × List Char) :=
  let cs := cs.dropWhile Unicode.isBlank
  let ds := cs.takeWhile Numeral.isDigit
  let rest := f.skip ((cs.dropWhile Numeral.isDigit).dropWhile Unicode.isBlank)
  match Numeral.value? ds with
  | none => some (none, rest)
  | some n => if n < halfWordLimit then some (some n, rest) else none

def readBounds (f : Flags) (cs : List Char) : Option (Nat × Option Nat × List Char) := do
  let (least, rest) ← readCount f (f.skip cs)
  let least ← least
  match rest with
  | '\x7d' :: rest => return (least, some least, rest)
  | ',' :: rest =>
    match f.skip rest with
    | '\x7d' :: rest => return (least, none, rest)
    | rest =>
      let (most, rest) ← readCount f rest
      let most ← most
      match rest with
      | '\x7d' :: rest => if least ≤ most then return (least, some most, rest) else none
      | _ => none
  | _ => none

/-- Flags up to the colon or closing bracket that ends them, which is left in place. Each may be
given once, and those after a minus sign are turned off. -/
def readFlags (f : Flags) (seen : List Char) : List Char → Option (Flags × List Char × List Char)
  | [] => none
  | c :: rest =>
    if c = ':' || c = ')' then
      if seen.head? == some '-' then none else some (f, seen, c :: rest)
    else if seen.contains c then none
    else if c = '-' then readFlags f ('-' :: seen) rest
    else do readFlags (← f.set? (!seen.contains '-') c) (c :: seen) rest

def isNameStart (c : Char) : Bool := c = '_' || Unicode.isAlphabetic c

def isNameChar (c : Char) : Bool :=
  isNameStart c || (Unicode.category c).isNumber || c = '.' || c = '[' || c = ']'

def readName (names : List String) (cs : List Char) : Option (String × List Char) :=
  let name := cs.takeWhile (· ≠ '>')
  match name, cs.dropWhile (· ≠ '>') with
  | c :: cs, _ :: rest =>
    if isNameStart c && cs.all isNameChar && !names.contains (String.ofList name) then
      some (String.ofList name, rest)
    else none
  | _, _ => none

inductive Opening
  | flags (f : Flags)
  | group (f : Flags) (names : List String)

def readOpening (f : Flags) (names : List String) (cs : List Char) :
    Option (Opening × List Char) :=
  match cs with
  | '?' :: 'P' :: '<' :: rest | '?' :: '<' :: rest => do
    let (name, rest) ← readName names rest
    return (.group f (name :: names), rest)
  | '?' :: rest => do
    match ← readFlags f [] rest with
    | (g, _, ':' :: rest) => return (.group g names, rest)
    | (g, seen, ')' :: rest) => if seen.isEmpty then none else return (.flags g, rest)
    | _ => none
  | rest => some (.group f names, rest)

/-- The alternatives of a group so far and the items of the last one, both from the last to the
first. A change of flags is an item that cannot be repeated. -/
structure Progress where
  flags : Flags
  names : List String
  branches : List Pattern
  items : List (Option Pattern)

namespace Progress

def start (f : Flags) (names : List String) : Progress := ⟨f, names, [], []⟩

def branch (p : Progress) : Pattern :=
  p.items.foldl (fun rest item ↦ match item with | some q => .seq q rest | none => rest) .empty

def pattern (p : Progress) : Pattern := p.branches.foldl (fun rest q ↦ .either q rest) p.branch

def push (p : Progress) (q : Pattern) : Progress := { p with items := some q :: p.items }

def nextBranch (p : Progress) : Progress :=
  { p with branches := p.branch :: p.branches, items := [] }

def repeat? (p : Progress) (least : Nat) (most : Option Nat) : Option Progress :=
  match p.items with
  | some q :: items => some { p with items := some (.repeated q least most) :: items }
  | _ => none

end Progress

/-- Whether a repetition prefers few or many makes no difference to a search. -/
def dropLazy : List Char → List Char
  | '?' :: rest => rest
  | rest => rest

def readEscapedItem (f : Flags) (cs : List Char) : Option (Pattern × List Char) := do
  match ← readEscape f cs with
  | (.char c, rest) => return (.one (← f.literal c), rest)
  | (.set s, rest) => return (.one (← f.confine s), rest)
  | (.assertion a, rest) => return (.assert a, rest)

/-- Reads up to the end of the group, at most `depth` groups deep. -/
def read : Nat → Nat → Progress → List Char → Option (Progress × List Char)
  | 0, _, _, _ => none
  | fuel + 1, depth, p, cs =>
    let f := p.flags
    match f.skip cs with
    | [] => some (p, [])
    | ')' :: rest => some (p, ')' :: rest)
    | '|' :: rest => read fuel depth p.nextBranch rest
    | '(' :: rest => do
      match ← readOpening f p.names (f.skip rest), depth with
      | (.flags g, rest), _ => read fuel depth { p with flags := g, items := none :: p.items } rest
      | (.group g names, rest), depth + 1 =>
        match ← read fuel depth (.start g names) rest with
        | (inner, ')' :: rest) =>
          read fuel (depth + 1) { p.push inner.pattern with names := inner.names } rest
        | _ => none
      | _, 0 => none
    | '[' :: rest => do
      let (s, rest) ← readClass f fuel rest
      read fuel depth (p.push (.one (← f.confine s))) rest
    | '?' :: rest => do read fuel depth (← p.repeat? 0 (some 1)) (dropLazy rest)
    | '*' :: rest => do read fuel depth (← p.repeat? 0 none) (dropLazy rest)
    | '+' :: rest => do read fuel depth (← p.repeat? 1 none) (dropLazy rest)
    | '\x7b' :: rest => do
      let (least, most, rest) ← readBounds f rest
      read fuel depth (← p.repeat? least most) (dropLazy (f.skip rest))
    | '\\' :: rest => do
      let (q, rest) ← readEscapedItem f rest
      read fuel depth (p.push q) rest
    | '.' :: rest => do read fuel depth (p.push (.one (← f.dot))) rest
    | '^' :: rest => read fuel depth (p.push (.assert f.lineStart)) rest
    | '$' :: rest => read fuel depth (p.push (.assert f.lineEnd)) rest
    | c :: rest => do read fuel depth (p.push (.one (← f.literal c))) rest

def depthLimit : Nat := 250

/-- How many steps of 32 bytes each fit into ten mebibytes, to which patterns are taken to be
limited. -/
def weightLimit : Nat := 10 * 1024 * 1024 / 32

def ofText? (text : String) (weightLimit : Nat := Pattern.weightLimit) : Option Pattern :=
  let cs := text.toList
  match read (2 * cs.length + 2) depthLimit (.start {} []) cs with
  | some (p, []) => if p.pattern.weight ≤ weightLimit then some p.pattern else none
  | _ => none

end Conformance.Pattern
