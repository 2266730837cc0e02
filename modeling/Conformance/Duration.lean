import Conformance.Text.Numeral

namespace Conformance

structure Duration where
  nanoseconds : Nat
  deriving DecidableEq, Repr, Inhabited

namespace Duration

def perSecond : Nat := 1000000000

def ofSeconds (s : Nat) : Duration := ⟨s * perSecond⟩

def ofMicroseconds (s : Nat) : Duration := ⟨s * 1000⟩

def seconds (d : Duration) : Nat := d.nanoseconds / perSecond

def subsecond (d : Duration) : Nat := d.nanoseconds % perSecond

instance : Add Duration := ⟨fun a b ↦ ⟨a.nanoseconds + b.nanoseconds⟩⟩
instance : Zero Duration := ⟨⟨0⟩⟩
instance : LE Duration := ⟨fun a b ↦ a.nanoseconds ≤ b.nanoseconds⟩
instance (a b : Duration) : Decidable (a ≤ b) :=
  inferInstanceAs (Decidable (a.nanoseconds ≤ b.nanoseconds))

def inUnits (unit places n : Nat) (suffix : String) : String :=
  let fraction := (Numeral.padded places (n % unit)).reverse.dropWhile (· == '0') |>.reverse
  let point := if n % unit == 0 then [] else '.' :: fraction
  String.ofList (Numeral.digits (n / unit) ++ point) ++ suffix

def text (d : Duration) : String :=
  if perSecond ≤ d.nanoseconds then inUnits perSecond 9 d.nanoseconds "s"
  else if 1000000 ≤ d.nanoseconds then inUnits 1000000 6 d.nanoseconds "ms"
  else if 1000 ≤ d.nanoseconds then inUnits 1000 3 d.nanoseconds "µs"
  else inUnits 1 0 d.nanoseconds "ns"

end Duration

end Conformance
