import Conformance.Decimal.Reading
import Conformance.Toml.Basic

namespace Conformance.Toml

def readMoreDigits (isDigit : Char → Bool) : List Char → Option (List Char × List Char)
  | '_' :: c :: rest =>
    if isDigit c then (readMoreDigits isDigit rest).map fun (ds, rest) ↦ (c :: ds, rest) else none
  | ['_'] => none
  | c :: rest =>
    if isDigit c then (readMoreDigits isDigit rest).map fun (ds, rest) ↦ (c :: ds, rest)
    else some ([], c :: rest)
  | [] => some ([], [])

def readDigits (isDigit : Char → Bool) : List Char → Option (List Char × List Char)
  | c :: rest =>
    if isDigit c then (readMoreDigits isDigit rest).map fun (ds, rest) ↦ (c :: ds, rest) else none
  | [] => none

def readWhole : List Char → Option (List Char × List Char)
  | '0' :: rest => some (['0'], rest)
  | rest => readDigits Numeral.isDigit rest

def integer? (n : Int) : Option Toml :=
  if -9223372036854775808 ≤ n && n ≤ 9223372036854775807 then some (.integer n) else none

def readRadix (radix : Nat) (cs : List Char) : Option (Toml × List Char) := do
  let (ds, rest) ← readDigits (fun c ↦ (Numeral.digitValue? radix c).isSome) cs
  let n ← Numeral.radixValue? radix ds
  return (← integer? n, rest)

def readFractionDigits : List Char → Option (List Char × List Char)
  | '.' :: rest => readDigits Numeral.isDigit rest
  | rest => some ([], rest)

def readExponent (cs : List Char) : Option (Int × List Char) :=
  match cs with
  | c :: rest =>
    if c = 'e' || c = 'E' then do
      let (negative, rest) := Decimal.splitSign rest
      let (ds, rest) ← readDigits Numeral.isDigit rest
      let n ← Numeral.value? ds
      return (if negative then -(n : Int) else n, rest)
    else some (0, cs)
  | [] => some (0, [])

/-- A number that is too large counts as infinite, which only a negative one may be. -/
def float? (negative : Bool) (mantissa : List Char) (exponent : Int) : Option Toml := do
  let x := Decimal.withSign negative
    (Decimal.nearestFloat (← Numeral.value? mantissa) exponent mantissa.length)
  if x.isInf && !negative then none else return .float x

def readUnsigned (negative : Bool) (cs : List Char) : Option (Toml × List Char) :=
  match cs with
  | 'i' :: 'n' :: 'f' :: rest => some (.float (Decimal.withSign negative (1 / 0)), rest)
  | 'n' :: 'a' :: 'n' :: rest => some (.float (0 / 0), rest)
  | _ => do
    let (whole, rest) ← readWhole cs
    match rest with
    | c :: _ =>
      if c = '.' || c = 'e' || c = 'E' then
        let (fraction, rest) ← readFractionDigits rest
        let (exponent, rest) ← readExponent rest
        return (← float? negative (whole ++ fraction) (exponent - fraction.length), rest)
      else
        let n ← Numeral.value? whole
        return (← integer? (if negative then -(n : Int) else n), rest)
    | [] =>
      let n ← Numeral.value? whole
      return (← integer? (if negative then -(n : Int) else n), [])

def readNumber (cs : List Char) : Option (Toml × List Char) :=
  match cs with
  | '0' :: 'x' :: rest => readRadix 16 rest
  | '0' :: 'o' :: rest => readRadix 8 rest
  | '0' :: 'b' :: rest => readRadix 2 rest
  | '-' :: rest => readUnsigned true rest
  | '+' :: rest => readUnsigned false rest
  | _ => readUnsigned false cs

end Conformance.Toml
