namespace Conformance.Decimal

structure Binary where
  mantissa : Nat
  exponent : Int
  /-- The mantissa is the least of its binade and the binade below has a finer grid. -/
  narrowBelow : Bool

/-- Significant digits without a leading zero, read as `0.d₁d₂… * 10 ^ point`. -/
structure Digits where
  digits : List Nat
  point : Int
  deriving Repr, DecidableEq

/-- Four times the number and the two ends of its interval, as numerators over a denominator. -/
structure Interval where
  low : Nat
  value : Nat
  high : Nat
  denominator : Nat
  closed : Bool

def Binary.interval (b : Binary) : Interval :=
  let up := Nat.pow 2 (b.exponent - 2).toNat
  { low := (4 * b.mantissa - if b.narrowBelow then 1 else 2) * up
    value := 4 * b.mantissa * up
    high := (4 * b.mantissa + 2) * up
    denominator := Nat.pow 2 (2 - b.exponent).toNat
    closed := b.mantissa % 2 == 0 }

def length (n : Nat) : Nat :=
  if n < 10 then 1 else length (n / 10) + 1
termination_by n

def magnitude (num den : Nat) : Int :=
  if den ≤ num then (length (num / den) : Int) - 1
  else -(length ((den + num - 1) / num - 1) : Int)

def digitList (n : Nat) : List Nat :=
  if n < 10 then [n] else digitList (n / 10) ++ [n % 10]
termination_by n

def Interval.contains (i : Interval) (n : Nat) (k : Int) : Bool :=
  let x := n * Nat.pow 10 k.toNat * i.denominator
  let scale := Nat.pow 10 (-k).toNat
  if i.closed then i.low * scale ≤ x && x ≤ i.high * scale
  else i.low * scale < x && x < i.high * scale

/-- The point of the grid of step `10 ^ k` nearest to the number among its two neighbours in the
interval, if one is; of two at the same distance the upper one. -/
def Interval.onGrid (i : Interval) (k : Int) : Option Nat :=
  let num := i.value * Nat.pow 10 (-k).toNat
  let den := i.denominator * Nat.pow 10 k.toNat
  let below := num / den
  let nearBelow := 2 * (num % den) < den
  match i.contains below k, i.contains (below + 1) k with
  | true, true => some (if nearBelow then below else below + 1)
  | true, false => some below
  | false, true => some (below + 1)
  | false, false => none

def trimZeros (ds : List Nat) : List Nat :=
  (ds.reverse.dropWhile (· == 0)).reverse

/-- The first hit on the grids of `17 - fuel + 1, …, 17` digits. -/
def Interval.search (i : Interval) (top : Int) : Nat → Digits
  | 0 =>
    let k := top - 16
    let n := i.value * Nat.pow 10 (-k).toNat / (i.denominator * Nat.pow 10 k.toNat)
    ⟨trimZeros (digitList n), k + (digitList n).length⟩
  | fuel + 1 =>
    let k := top - (16 - fuel : Nat)
    match i.onGrid k with
    | some n => ⟨trimZeros (digitList n), k + (digitList n).length⟩
    | none => i.search top fuel

def Binary.shortest (b : Binary) : Digits :=
  b.interval.search (magnitude b.interval.value b.interval.denominator) 17

end Conformance.Decimal
