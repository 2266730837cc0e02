import Conformance.Text.Numeral

namespace Conformance.Toml

def isPrintable (c : Char) : Bool := c = '\t' || (32 ≤ c.toNat && c.toNat ≠ 127)

def isSpace (c : Char) : Bool := c = ' ' || c = '\t'

def dropSpace (cs : List Char) : List Char := cs.dropWhile isSpace

def readNewline : List Char → Option (List Char)
  | '\n' :: rest => some rest
  | '\r' :: '\n' :: rest => some rest
  | _ => none

def dropComment : List Char → List Char
  | '#' :: rest => rest.dropWhile isPrintable
  | rest => rest

def readLineEnd (cs : List Char) : Option (List Char) :=
  match dropComment (dropSpace cs) with
  | [] => some []
  | rest => readNewline rest

def dropTrivia (fuel : Nat) (cs : List Char) : List Char :=
  match fuel with
  | 0 => cs
  | fuel + 1 =>
    let rest := dropSpace cs
    match readNewline (dropComment rest) with
    | some rest => dropTrivia fuel rest
    | none => rest

def charOfCode? (code : Nat) : Option Char :=
  if code.isValidChar then some (Char.ofNat code) else none

def readCode (places : Nat) (cs : List Char) : Option (Char × List Char) := do
  let ds := cs.take places
  if ds.length ≠ places then none
  else return (← charOfCode? (← Numeral.radixValue? 16 ds), cs.drop places)

def readEscape : List Char → Option (Char × List Char)
  | 'b' :: rest => some ('\x08', rest)
  | 'f' :: rest => some ('\x0c', rest)
  | 'n' :: rest => some ('\n', rest)
  | 'r' :: rest => some ('\r', rest)
  | 't' :: rest => some ('\t', rest)
  | '"' :: rest => some ('"', rest)
  | '\\' :: rest => some ('\\', rest)
  | 'u' :: rest => readCode 4 rest
  | 'U' :: rest => readCode 8 rest
  | _ => none

def readBasic : Nat → List Char → Option (List Char × List Char)
  | 0, _ => none
  | _, [] => none
  | _, '"' :: rest => some ([], rest)
  | fuel + 1, '\\' :: rest => do
    let (c, rest) ← readEscape rest
    let (s, rest) ← readBasic fuel rest
    return (c :: s, rest)
  | fuel + 1, c :: rest =>
    if isPrintable c then (readBasic fuel rest).map fun (s, rest) ↦ (c :: s, rest) else none

def readLiteral : List Char → Option (List Char × List Char)
  | [] => none
  | '\'' :: rest => some ([], rest)
  | c :: rest =>
    if isPrintable c then (readLiteral rest).map fun (s, rest) ↦ (c :: s, rest) else none

/-- The line end that a string of several lines may start with does not belong to it. -/
def dropFirstNewline (cs : List Char) : List Char := (readNewline cs).getD cs

def dropBlank : List Char → List Char
  | '\r' :: '\n' :: rest => dropBlank rest
  | c :: rest => if isSpace c || c = '\n' then dropBlank rest else c :: rest
  | [] => []

/-- The quotes at the front of the text behind a string that has three of them or more: the last
three of at most five end the string, and those before them belong to it. -/
def closingQuotes (quote : Char) (cs : List Char) : Option (List Char × List Char) :=
  let run := min 5 (cs.takeWhile (· = quote)).length
  if run < 3 then none else some (List.replicate (run - 3) quote, cs.drop run)

def readMultilineBasic : Nat → List Char → Option (List Char × List Char)
  | 0, _ => none
  | _, [] => none
  | fuel + 1, '\\' :: rest =>
    match readNewline (dropSpace rest) with
    | some rest => readMultilineBasic fuel (dropBlank rest)
    | none => do
      let (c, rest) ← readEscape rest
      let (s, rest) ← readMultilineBasic fuel rest
      return (c :: s, rest)
  | fuel + 1, c :: rest =>
    match closingQuotes '"' (c :: rest), readNewline (c :: rest) with
    | some closed, _ => some closed
    | none, some rest => (readMultilineBasic fuel rest).map fun (s, rest) ↦ ('\n' :: s, rest)
    | none, none =>
      if isPrintable c then
        (readMultilineBasic fuel rest).map fun (s, rest) ↦ (c :: s, rest)
      else none

def readMultilineLiteral : Nat → List Char → Option (List Char × List Char)
  | 0, _ => none
  | _, [] => none
  | fuel + 1, c :: rest =>
    match closingQuotes '\'' (c :: rest), readNewline (c :: rest) with
    | some closed, _ => some closed
    | none, some rest => (readMultilineLiteral fuel rest).map fun (s, rest) ↦ ('\n' :: s, rest)
    | none, none =>
      if isPrintable c then
        (readMultilineLiteral fuel rest).map fun (s, rest) ↦ (c :: s, rest)
      else none

def readString (cs : List Char) : Option (String × List Char) :=
  let read := match cs with
    | '"' :: '"' :: '"' :: rest => readMultilineBasic (cs.length + 1) (dropFirstNewline rest)
    | '"' :: rest => readBasic (cs.length + 1) rest
    | '\'' :: '\'' :: '\'' :: rest => readMultilineLiteral (cs.length + 1) (dropFirstNewline rest)
    | '\'' :: rest => readLiteral rest
    | _ => none
  read.map fun (s, rest) ↦ (String.ofList s, rest)

end Conformance.Toml
