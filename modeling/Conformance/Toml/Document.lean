import Conformance.Toml.Number
import Conformance.Toml.Table
import Conformance.Toml.Text

namespace Conformance.Toml

/-- How deep arrays and inline tables may nest, and how many parts a key may have, less one. -/
def depthLimit : Nat := 80

def isKeyChar (c : Char) : Bool := c.isAlphanum || c = '-' || c = '_'

def readSimpleKey (cs : List Char) : Option (String × List Char) :=
  match cs with
  | '"' :: rest => (readBasic (rest.length + 1) rest).map fun (s, rest) ↦ (String.ofList s, rest)
  | '\'' :: rest => (readLiteral rest).map fun (s, rest) ↦ (String.ofList s, rest)
  | _ =>
    let k := cs.takeWhile isKeyChar
    if k.isEmpty then none else some (String.ofList k, cs.dropWhile isKeyChar)

def readKeyParts : Nat → List Char → Option (List String × List Char)
  | 0, _ => none
  | fuel + 1, cs => do
    let (k, rest) ← readSimpleKey (dropSpace cs)
    match dropSpace rest with
    | '.' :: rest =>
      let (ks, rest) ← readKeyParts fuel rest
      return (k :: ks, rest)
    | rest => return ([k], rest)

/-- A key as the parts before its last dot and the part behind it. -/
def readKey (cs : List Char) : Option ((List String × String) × List Char) := do
  let (ks, rest) ← readKeyParts (cs.length + 1) cs
  if depthLimit ≤ ks.length then none
  else return ((ks.dropLast, ← ks.getLast?), rest)

mutual

def readValue : Nat → Nat → List Char → Option (Toml × List Char)
  | 0, _, _ => none
  | fuel + 1, depth, cs =>
    match cs with
    | '"' :: _ | '\'' :: _ => (readString cs).map fun (s, rest) ↦ (.string s, rest)
    | 't' :: 'r' :: 'u' :: 'e' :: rest => some (.boolean true, rest)
    | 'f' :: 'a' :: 'l' :: 's' :: 'e' :: rest => some (.boolean false, rest)
    | '[' :: rest =>
      if depthLimit ≤ depth + 1 then none
      else (readElements fuel (depth + 1) rest).map fun (es, rest) ↦ (.array es, rest)
    | '\x7b' :: rest =>
      if depthLimit ≤ depth + 1 then none
      else match dropSpace rest with
        | '\x7d' :: rest => some (.table [], rest)
        | rest => do
          let (pairs, rest) ← readPairs fuel (depth + 1) rest
          return (← inlineTable? pairs, rest)
    | _ =>
      if startsDateTime cs then (readDateTime cs).map fun (d, rest) ↦ (.dateTime d, rest)
      else readNumber cs

def readElements : Nat → Nat → List Char → Option (List Toml × List Char)
  | 0, _, _ => none
  | fuel + 1, depth, cs =>
    match dropTrivia (cs.length + 1) cs with
    | ']' :: rest => some ([], rest)
    | start => do
      let (e, rest) ← readValue fuel depth start
      match dropTrivia (rest.length + 1) rest with
      | ',' :: rest =>
        let (es, rest) ← readElements fuel depth rest
        return (e :: es, rest)
      | ']' :: rest => return ([e], rest)
      | _ => none

def readPairs : Nat → Nat → List Char → Option (List (List String × String × Toml) × List Char)
  | 0, _, _ => none
  | fuel + 1, depth, cs => do
    let ((path, k), rest) ← readKey cs
    match rest with
    | '=' :: rest =>
      let (v, rest) ← readValue fuel depth (dropSpace rest)
      match dropSpace rest with
      | ',' :: rest =>
        let (pairs, rest) ← readPairs fuel depth rest
        return ((path, k, v) :: pairs, rest)
      | '\x7d' :: rest => return ([(path, k, v)], rest)
      | _ => none
    | _ => none

end

/-- A document up to some line: the tables that are finished, and the one that the last header
opened, with its path; without a header that is the document itself. -/
structure Progress where
  root : Table
  current : Table
  header : Option (Bool × List String × String)

namespace Progress

def start : Progress := ⟨.empty, .empty, none⟩

def close (p : Progress) : Option Table :=
  match p.header with
  | none => some p.current
  | some (true, path, k) =>
    p.root.update false (fun parent ↦
      match parent.get? k with
      | none => some (parent.set k (.tables [p.current]))
      | some (.tables ts) => some (parent.set k (.tables (p.current :: ts)))
      | _ => none) path
  | some (false, path, k) =>
    p.root.update false (fun parent ↦
      if (parent.get? k).isSome then none else some (parent.set k (.table p.current))) path

def parent? (root : Table) (path : List String) : Option Table :=
  match path with
  | [] => some root
  | k :: path =>
    match root.get? k with
    | none => some (.mk true false [])
    | some (.table t) => parent? t path
    | some (.tables (t :: _)) => parent? t path
    | _ => none

/-- Opens the table of a header. A table that was only mentioned so far keeps its entries. -/
def openTable (root : Table) (path : List String) (k : String) : Option Progress := do
  let parent ← parent? root path
  match parent.get? k with
  | none => return ⟨← root.update false some path, .empty, some (false, path, k)⟩
  | some (.table (.mk true false entries)) =>
    return ⟨← root.update false (fun parent ↦ some (parent.erase k)) path, .mk false false entries,
      some (false, path, k)⟩
  | _ => none

def openElement (root : Table) (path : List String) (k : String) : Option Progress := do
  let parent ← parent? root path
  match parent.get? k with
  | none | some (.tables _) =>
    return ⟨← root.update false some path, .empty, some (true, path, k)⟩
  | _ => none

def readHeader (p : Progress) (cs : List Char) : Option (Progress × List Char) := do
  let root ← p.close
  match cs with
  | '[' :: rest =>
    match ← readKey rest with
    | ((path, k), ']' :: ']' :: rest) => return (← openElement root path k, ← readLineEnd rest)
    | _ => none
  | _ =>
    match ← readKey cs with
    | ((path, k), ']' :: rest) => return (← openTable root path k, ← readLineEnd rest)
    | _ => none

def readEntry (p : Progress) (cs : List Char) : Option (Progress × List Char) := do
  match ← readKey cs with
  | ((path, k), '=' :: rest) =>
    let (v, rest) ← readValue (2 * rest.length + 2) 0 (dropSpace rest)
    let rest ← readLineEnd rest
    return ({ p with current := ← p.current.addValue path k v }, rest)
  | _ => none

def readLines : Nat → Progress → List Char → Option Progress
  | 0, _, _ => none
  | fuel + 1, p, cs =>
    match dropSpace cs with
    | [] => some p
    | '[' :: rest => do
      let (p, rest) ← p.readHeader rest
      readLines fuel p rest
    | c :: rest =>
      if c = '#' || c = '\n' || c = '\r' then do
        readLines fuel p (← readLineEnd (c :: rest))
      else do
        let (p, rest) ← p.readEntry (c :: rest)
        readLines fuel p rest

end Progress

def dropByteOrderMark : List Char → List Char
  | '\ufeff' :: rest => rest
  | rest => rest

def ofText? (text : String) : Option Toml := do
  let cs := dropByteOrderMark text.toList
  let p ← Progress.readLines (cs.length + 1) .start cs
  return (← p.close).toToml

end Conformance.Toml
