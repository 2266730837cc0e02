import Conformance.Pattern.CharSet

namespace Conformance

namespace Pattern

/-- A condition on the place between two characters. Where lines matter, `crlf` says that a carriage
return and a line feed, alone or together, break them, and not the line feed alone. -/
inductive Assertion
  | textStart
  | textEnd
  | lineStart (crlf : Bool)
  | lineEnd (crlf : Bool)
  | wordBoundary (ascii : Bool)
  | notWordBoundary (ascii : Bool)
  | wordStart (ascii : Bool)
  | wordEnd (ascii : Bool)
  | notAfterWord (ascii : Bool)
  | notBeforeWord (ascii : Bool)
  deriving DecidableEq, Repr

end Pattern

inductive Pattern
  | empty
  | one (s : Pattern.CharSet)
  | assert (a : Pattern.Assertion)
  | seq (p q : Pattern)
  | either (p q : Pattern)
  | repeated (p : Pattern) (least : Nat) (most : Option Nat)
  deriving Repr, Inhabited

namespace Pattern

def isWordChar (ascii : Bool) (c : Char) : Bool :=
  if ascii then c.isAlphanum || c = '_' else Unicode.isWord c

def Assertion.holds (before after : Option Char) : Assertion → Bool
  | textStart => before.isNone
  | textEnd => after.isNone
  | lineStart false => before.all (· = '\n')
  | lineStart true => before.all fun b ↦ b = '\n' || (b = '\r' && after != some '\n')
  | lineEnd false => after.all (· = '\n')
  | lineEnd true => after.all fun a ↦ a = '\r' || (a = '\n' && before != some '\r')
  | wordBoundary ascii => before.any (isWordChar ascii) != after.any (isWordChar ascii)
  | notWordBoundary ascii => before.any (isWordChar ascii) == after.any (isWordChar ascii)
  | wordStart ascii => !before.any (isWordChar ascii) && after.any (isWordChar ascii)
  | wordEnd ascii => before.any (isWordChar ascii) && !after.any (isWordChar ascii)
  | notAfterWord ascii => !before.any (isWordChar ascii)
  | notBeforeWord ascii => !after.any (isWordChar ascii)

/-- A pattern on a certain text, with sets of positions in place of characters and assertions. A set
is a number whose bits stand for the positions. -/
inductive Layout
  | empty
  /-- One character may be passed from any of these positions. -/
  | pass (positions : Nat)
  /-- Nothing is passed, but only these positions will do. -/
  | hold (positions : Nat)
  | seq (p q : Layout)
  | either (p q : Layout)
  | repeated (p : Layout) (least : Nat) (most : Option Nat)

def positionsWhere (test : Nat → Bool) : Nat → Nat
  | 0 => 0
  | count + 1 => positionsWhere test count ||| (if test count then 1 <<< count else 0)

def layOn (text : Array Char) : Pattern → Layout
  | empty => .empty
  | one s => .pass (positionsWhere (fun i ↦ text[i]?.any fun c ↦ s.contains c.toNat) text.size)
  | assert a =>
    let before (i : Nat) := if i = 0 then none else text[i - 1]?
    .hold (positionsWhere (fun i ↦ a.holds (before i) text[i]?) (text.size + 1))
  | seq p q => .seq (p.layOn text) (q.layOn text)
  | either p q => .either (p.layOn text) (q.layOn text)
  | repeated p least most => .repeated (p.layOn text) least most

def iterate (step : Nat → Nat) : Nat → Nat → Nat
  | 0, s => s
  | n + 1, s => if s = 0 then 0 else iterate step n (step s)

/-- Adds what up to `n` steps lead to, ending early once nothing is new. -/
def saturate (step : Nat → Nat) : Nat → Nat → Nat
  | 0, s => s
  | n + 1, s =>
    let t := s ||| step s
    if t = s then s else saturate step n t

/-- Where matches that start at one of the positions may end, in a text of that size. All starts are
tried at once, and no more repetitions than there are characters lead to new positions. -/
def Layout.ends (size : Nat) : Layout → Nat → Nat
  | empty, starts => starts
  | pass positions, starts => (starts &&& positions) <<< 1
  | hold positions, starts => starts &&& positions
  | seq p q, starts => q.ends size (p.ends size starts)
  | either p q, starts => p.ends size starts ||| q.ends size starts
  | repeated p least most, starts =>
    let further := match most with
      | some m => min (m - least) (size + 1)
      | none => size + 1
    saturate (p.ends size) further (iterate (p.ends size) least starts)

def matchesIn (p : Pattern) (text : String) : Bool :=
  let cs := text.toList.toArray
  (p.layOn cs).ends cs.size (Nat.pow 2 (cs.size + 1) - 1) != 0

def weight : Pattern → Nat
  | empty => 1
  | one s => if s.size = 1 then 1 else 2 * s.size
  | assert _ => 1
  | seq p q => p.weight + q.weight
  | either p q => p.weight + q.weight + 1
  | repeated p least most => p.weight * max 1 (most.getD (least + 1)) + 1

end Pattern

end Conformance
