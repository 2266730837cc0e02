import Conformance.Text.Numeral

namespace Conformance.Decimal

/-- The floating point number nearest to `mantissa * 10 ^ exponent`, where the mantissa has `digits`
digits; an exponent that no mantissa of that length makes up for gives zero or infinity. -/
def nearestFloat (mantissa : Nat) (exponent : Int) (digits : Nat) : Float :=
  if mantissa = 0 then 0
  else if exponent + digits < -400 then 0
  else if 400 < exponent + digits then Float.ofScientific 1 false 400
  else Float.ofScientific mantissa (decide (exponent < 0)) exponent.natAbs

def withSign (negative : Bool) (x : Float) : Float := if negative then -x else x

def splitSign : List Char → Bool × List Char
  | '-' :: rest => (true, rest)
  | '+' :: rest => (false, rest)
  | rest => (false, rest)

def readExponent : List Char → Option Int
  | [] => some 0
  | c :: rest =>
    if c.toLower = 'e' then
      let (negative, ds) := splitSign rest
      (Numeral.value? ds).map fun n ↦ if negative then -(n : Int) else n
    else none

def readUnsigned (cs : List Char) : Option Float := do
  let whole := cs.takeWhile Numeral.isDigit
  let rest := cs.dropWhile Numeral.isDigit
  let (fraction, rest) := match rest with
    | '.' :: rest => (rest.takeWhile Numeral.isDigit, rest.dropWhile Numeral.isDigit)
    | rest => ([], rest)
  let digits := whole ++ fraction
  return nearestFloat (← Numeral.value? digits) ((← readExponent rest) - fraction.length)
    digits.length

def readFloat (cs : List Char) : Option Float :=
  let (negative, rest) := splitSign cs
  let word := String.ofList (rest.map Char.toLower)
  if word = "inf" || word = "infinity" then some (withSign negative (1 / 0))
  else if word = "nan" then some (0 / 0)
  else (readUnsigned rest).map (withSign negative)

end Conformance.Decimal
