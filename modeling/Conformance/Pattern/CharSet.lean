import Conformance.Unicode.Category
import Conformance.Unicode.Folding
import Conformance.Unicode.Script

namespace Conformance.Pattern

inductive Property
  | category (k : Unicode.Category)
  | letter
  | casedLetter
  | mark
  | number
  | punctuation
  | symbol
  | separator
  | other
  | alphabetic
  | word
  | blank
  | assigned
  | script (abbreviation : String)
  deriving DecidableEq, Repr

namespace Property

def holds (p : Property) (c : Char) : Bool :=
  let k := Unicode.category c
  match p with
  | category k' => k == k'
  | letter => k.isLetter
  | casedLetter => (k matches .lu | .ll | .lt)
  | mark => k.isMark
  | number => k.isNumber
  | punctuation => k.isPunctuation
  | symbol => k.isSymbol
  | separator => k.isSeparator
  | other => k.isOther
  | alphabetic => Unicode.isAlphabetic c
  | word => Unicode.isWord c
  | blank => Unicode.isBlank c
  | assigned => k != .cn
  | script abbreviation => Unicode.script c == abbreviation

end Property

inductive CharSet
  | ranges (rs : List (Nat × Nat))
  | property (p : Property)
  | complement (s : CharSet)
  | union (s t : CharSet)
  | inter (s t : CharSet)
  /-- All characters that are the same letter as one in the set. -/
  | folded (s : CharSet)
  deriving Repr

namespace CharSet

def contains : CharSet → Nat → Bool
  | ranges rs, code => Unicode.inRanges rs code
  | property p, code => p.holds (Char.ofNat code)
  | complement s, code => !s.contains code
  | union s t, code => s.contains code || t.contains code
  | inter s t, code => s.contains code && t.contains code
  | folded s, code => (Unicode.sameLetter code).any s.contains

def empty : CharSet := ranges []

def all : CharSet := ranges [(0, 0x10ffff)]

def ascii : CharSet := ranges [(0, 0x7f)]

def single (c : Char) : CharSet := ranges [(c.toNat, c.toNat)]

def diff (s t : CharSet) : CharSet := inter s (complement t)

def symmDiff (s t : CharSet) : CharSet := union (diff s t) (diff t s)

/-- How many ranges it takes to write the set, as an estimate. -/
def size : CharSet → Nat
  | ranges rs => rs.length
  | property (.category _) => 60
  | property (.script _) => 30
  | property _ => 700
  | complement s => s.size + 1
  | union s t | inter s t => s.size + t.size
  | folded s => 2 * s.size

end CharSet

end Conformance.Pattern
