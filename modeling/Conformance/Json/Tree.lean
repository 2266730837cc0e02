import Conformance.Decimal.Reading
import Conformance.Json.Basic
import Conformance.Text.Numeral
import Conformance.Word

namespace Conformance.Json

inductive Piece
  | char (c : Char)
  | unit (n : Nat)
  deriving DecidableEq, Repr

structure NumberText where
  negative : Bool
  whole : List Char
  fraction : Option (List Char)
  exponent : Option (Bool × List Char)
  deriving DecidableEq, Repr

/-- JSON text by its lexemes. Whether a lexeme has a value is a second question: a string may name
half of a surrogate pair, and a number may be too large. -/
inductive Tree
  | null
  | bool (b : Bool)
  | number (n : NumberText)
  | string (pieces : List Piece)
  | array (elements : List Tree)
  | object (members : List (List Piece × Tree))
  deriving Inhabited

def isSpace (c : Char) : Bool := c = ' ' || c = '\n' || c = '\t' || c = '\r'

def named? : Char → Option Char
  | '"' => some '"'
  | '\\' => some '\\'
  | '/' => some '/'
  | 'b' => some '\x08'
  | 'f' => some '\x0c'
  | 'n' => some '\n'
  | 'r' => some '\r'
  | 't' => some '\t'
  | _ => none

/-- The rest of a string after its opening quote, and what follows the closing one. -/
def readPieces : List Char → Option (List Piece × List Char)
  | [] => none
  | '"' :: rest => some ([], rest)
  | '\\' :: 'u' :: a :: b :: c :: d :: rest => do
    let n ← if [a, b, c, d].all fun h ↦ (Numeral.digitValue? 16 h).isSome
      then Numeral.radixValue? 16 [a, b, c, d] else none
    let (pieces, rest) ← readPieces rest
    return (.unit n :: pieces, rest)
  | '\\' :: c :: rest => do
    let e ← named? c
    let (pieces, rest) ← readPieces rest
    return (.char e :: pieces, rest)
  | c :: rest =>
    if c.toNat < 32 || c = '\\' then none
    else do
      let (pieces, rest) ← readPieces rest
      return (.char c :: pieces, rest)

def readDigits (cs : List Char) : Option (List Char × List Char) :=
  let ds := cs.takeWhile Numeral.isDigit
  if ds.isEmpty then none else some (ds, cs.dropWhile Numeral.isDigit)

def readFraction : List Char → Option (Option (List Char) × List Char)
  | '.' :: rest => do
    let (ds, rest) ← readDigits rest
    return (some ds, rest)
  | rest => some (none, rest)

def readExponent : List Char → Option (Option (Bool × List Char) × List Char)
  | c :: rest =>
    if c = 'e' || c = 'E' then do
      let (negative, rest) := match rest with
        | '-' :: rest => (true, rest)
        | '+' :: rest => (false, rest)
        | rest => (false, rest)
      let (ds, rest) ← readDigits rest
      return (some (negative, ds), rest)
    else some (none, c :: rest)
  | [] => some (none, [])

def readNumber (cs : List Char) : Option (NumberText × List Char) := do
  let (negative, cs) := match cs with
    | '-' :: rest => (true, rest)
    | rest => (false, rest)
  let (whole, cs) ← readDigits cs
  if whole.head? == some '0' && whole.length ≠ 1 then none
  else
    let (fraction, cs) ← readFraction cs
    let (exponent, cs) ← readExponent cs
    return (⟨negative, whole, fraction, exponent⟩, cs)

mutual

def readTree : Nat → List Char → Option (Tree × List Char)
  | 0, _ => none
  | fuel + 1, cs =>
    match cs.dropWhile isSpace with
    | 'n' :: 'u' :: 'l' :: 'l' :: rest => some (.null, rest)
    | 't' :: 'r' :: 'u' :: 'e' :: rest => some (.bool true, rest)
    | 'f' :: 'a' :: 'l' :: 's' :: 'e' :: rest => some (.bool false, rest)
    | '"' :: rest => (readPieces rest).map fun (pieces, rest) ↦ (.string pieces, rest)
    | '[' :: rest =>
      match rest.dropWhile isSpace with
      | ']' :: rest => some (.array [], rest)
      | rest => (readElements fuel rest).map fun (es, rest) ↦ (.array es, rest)
    | '\x7b' :: rest =>
      match rest.dropWhile isSpace with
      | '\x7d' :: rest => some (.object [], rest)
      | rest => (readMembers fuel rest).map fun (ms, rest) ↦ (.object ms, rest)
    | rest => (readNumber rest).map fun (n, rest) ↦ (.number n, rest)

def readElements : Nat → List Char → Option (List Tree × List Char)
  | 0, _ => none
  | fuel + 1, cs => do
    let (e, rest) ← readTree fuel cs
    match rest.dropWhile isSpace with
    | ',' :: rest =>
      let (es, rest) ← readElements fuel rest
      return (e :: es, rest)
    | ']' :: rest => return ([e], rest)
    | _ => none

def readMembers : Nat → List Char → Option (List (List Piece × Tree) × List Char)
  | 0, _ => none
  | fuel + 1, cs =>
    match cs.dropWhile isSpace with
    | '"' :: rest => do
      let (k, rest) ← readPieces rest
      match rest.dropWhile isSpace with
      | ':' :: rest =>
        let (v, rest) ← readTree fuel rest
        match rest.dropWhile isSpace with
        | ',' :: rest =>
          let (ms, rest) ← readMembers fuel rest
          return ((k, v) :: ms, rest)
        | '\x7d' :: rest => return ([(k, v)], rest)
        | _ => none
      | _ => none
    | _ => none

end

def Tree.ofChars (cs : List Char) : Option Tree :=
  match readTree (2 * cs.length + 2) cs with
  | some (t, rest) => if rest.all isSpace then some t else none
  | none => none

/-- The characters of a string; the two halves of a surrogate pair have to stand together. -/
def decodePieces : List Piece → Option (List Char)
  | [] => some []
  | .char c :: rest => (decodePieces rest).map (c :: ·)
  | .unit n :: rest =>
    if n < 0xd800 || 0xe000 ≤ n then (decodePieces rest).map (Char.ofNat n :: ·)
    else if 0xdc00 ≤ n then none
    else match rest with
      | .unit m :: rest =>
        if 0xdc00 ≤ m && m < 0xe000 then
          (decodePieces rest).map
            (Char.ofNat (0x10000 + (n - 0xd800) * 0x400 + (m - 0xdc00)) :: ·)
        else none
      | _ => none

def NumberText.scale? (n : NumberText) : Option Int :=
  let places : Int := (n.fraction.getD []).length
  match n.exponent with
  | none => some (-places)
  | some (true, ds) => (Numeral.value? ds).map fun e ↦ -(e : Int) - places
  | some (false, ds) => (Numeral.value? ds).map fun e ↦ (e : Int) - places

def NumberText.float? (n : NumberText) : Option Json := do
  let digits := n.whole ++ n.fraction.getD []
  let x := Decimal.nearestFloat (← Numeral.value? digits) (← n.scale?) digits.length
  if x.isInf then none else some (.float (Decimal.withSign n.negative x))

/-- A whole number if it is written as one and fits a word, with or without a sign, and a floating
point number otherwise. Minus zero is not a whole number. -/
def NumberText.value? (n : NumberText) : Option Json := do
  if n.fraction.isSome || n.exponent.isSome then n.float?
  else
    let whole ← Numeral.value? n.whole
    if n.negative then
      if whole = 0 || 9223372036854775808 < whole then n.float? else some (.int (-(whole : Int)))
    else if whole < wordLimit then some (.int whole) else n.float?

namespace Tree

mutual

def value? : Tree → Option Json
  | null => some .null
  | bool b => some (.bool b)
  | number n => n.value?
  | string pieces => (decodePieces pieces).map fun cs ↦ .str (String.ofList cs)
  | array es => (elementValues es).map .arr
  | object ms => (memberValues ms).map .obj

def elementValues : List Tree → Option (List Json)
  | [] => some []
  | t :: ts => do return (← t.value?) :: (← elementValues ts)

def memberValues : List (List Piece × Tree) → Option (List (String × Json))
  | [] => some []
  | (k, t) :: ms => do
    let k ← decodePieces k
    return (String.ofList k, ← t.value?) :: (← memberValues ms)

end

mutual

def depth : Tree → Nat
  | array es => elementDepth es + 1
  | object ms => memberDepth ms + 1
  | _ => 0

def elementDepth : List Tree → Nat
  | [] => 0
  | t :: ts => max t.depth (elementDepth ts)

def memberDepth : List (List Piece × Tree) → Nat
  | [] => 0
  | (_, t) :: ms => max t.depth (memberDepth ms)

end

end Tree

end Conformance.Json
