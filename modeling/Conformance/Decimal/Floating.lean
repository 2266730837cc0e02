import Conformance.Decimal.Shortest
import Conformance.Text.Numeral

namespace Conformance.Decimal

inductive Magnitude
  | nan
  | infinite
  | zero
  | finite (b : Binary)

def classify (fraction bias : Nat) (bits : Nat) : Bool × Magnitude :=
  let top := 2 * bias + 1
  let exponent := bits / Nat.pow 2 fraction % (top + 1)
  let mantissa := bits % Nat.pow 2 fraction
  let negative := bits / Nat.pow 2 fraction / (top + 1) % 2 == 1
  let shift : Int := (bias : Int) + fraction
  let magnitude :=
    if exponent == top then (if mantissa == 0 then Magnitude.infinite else .nan)
    else if exponent == 0 then
      if mantissa == 0 then .zero else .finite ⟨mantissa, 1 - shift, false⟩
    else .finite ⟨mantissa + Nat.pow 2 fraction, exponent - shift, mantissa == 0 && 1 < exponent⟩
  (negative, magnitude)

def ofFloat (x : Float) : Bool × Magnitude := classify 52 1023 x.toBits.toNat

def ofFloat32 (x : Float32) : Bool × Magnitude := classify 23 127 x.toBits.toNat

def zeros (n : Nat) : List Char := List.replicate n '0'

def positionalChars (d : Digits) : List Char :=
  let ds := d.digits.map Numeral.digitChar
  let whole := if d.point ≤ 0 then ['0']
    else ds.take d.point.toNat ++ zeros (d.point.toNat - ds.length)
  let part := if d.point ≤ 0 then zeros (-d.point).toNat ++ ds else ds.drop d.point.toNat
  whole ++ '.' :: (if part.isEmpty then ['0'] else part)

def scientificChars (d : Digits) : List Char :=
  let exponent := d.point - 1
  let tail := 'e' :: (Numeral.intText exponent).toList
  match d.digits.map Numeral.digitChar with
  | [] => '0' :: tail
  | [c] => c :: tail
  | c :: cs => c :: '.' :: cs ++ tail

def signed (negative : Bool) (cs : List Char) : String :=
  String.ofList (if negative then '-' :: cs else cs)

/-- An exponent from `10 ^ 16` upwards and below `10 ^ (least - 1)`, and a fraction otherwise. -/
def withExponentBelow (least : Int) : Bool × Magnitude → String
  | (_, .nan) => "NaN"
  | (negative, .infinite) => signed negative "inf".toList
  | (negative, .zero) => signed negative "0.0".toList
  | (negative, .finite b) =>
    let d := b.shortest
    signed negative
      (if d.point < least || 17 ≤ d.point then scientificChars d else positionalChars d)

def general : Bool × Magnitude → String := withExponentBelow (-3)

/-- The form in JSON, which has one more place before an exponent sets in. -/
def interchange : Bool × Magnitude → String := withExponentBelow (-4)

end Conformance.Decimal
