import Conformance.Unicode.CategoryRuns
import Conformance.Unicode.Ranges
import Conformance.Unicode.Runs

namespace Conformance.Unicode

inductive Category
  | lu | ll | lt | lm | lo
  | mn | mc | me
  | nd | nl | no
  | pc | pd | ps | pe | pi | pf | po
  | sm | sc | sk | so
  | zs | zl | zp
  | cc | cf | cs | co | cn
  deriving DecidableEq, Repr, Inhabited

namespace Category

def all : List Category :=
  [.lu, .ll, .lt, .lm, .lo, .mn, .mc, .me, .nd, .nl, .no, .pc, .pd, .ps, .pe, .pi, .pf, .po,
    .sm, .sc, .sk, .so, .zs, .zl, .zp, .cc, .cf, .cs, .co, .cn]

def isLetter (k : Category) : Bool := k matches lu | ll | lt | lm | lo
def isMark (k : Category) : Bool := k matches mn | mc | me
def isNumber (k : Category) : Bool := k matches nd | nl | no
def isPunctuation (k : Category) : Bool := k matches pc | pd | ps | pe | pi | pf | po
def isSymbol (k : Category) : Bool := k matches sm | sc | sk | so
def isSeparator (k : Category) : Bool := k matches zs | zl | zp
def isOther (k : Category) : Bool := k matches cc | cf | cs | co | cn

end Category

def categoryStarts : Array (Nat × Category) :=
  let letters := "ghijklmnopqrstuvwxyzGHIJKLMNOP".toList.zip Category.all
  (categoryRuns.toList.foldl
    (fun r c ↦
      match letters.lookup c with
      | some k => r.value k
      | none => r.digit c)
    RunReader.empty).starts

def category (c : Char) : Category := valueAt categoryStarts .cn c.toNat

def isAlphabetic (c : Char) : Bool :=
  let k := category c
  k.isLetter || k == .nl || inRanges furtherAlphabetic c.toNat

def isWord (c : Char) : Bool :=
  let k := category c
  k.isLetter || k.isMark || k == .nd || k == .nl || k == .pc
    || inRanges furtherAlphabetic c.toNat || c.toNat == 0x200c || c.toNat == 0x200d

def blanks : List (Nat × Nat) :=
  [(0x9, 0xd), (0x20, 0x20), (0x85, 0x85), (0xa0, 0xa0), (0x1680, 0x1680), (0x2000, 0x200a),
    (0x2028, 0x2029), (0x202f, 0x202f), (0x205f, 0x205f), (0x3000, 0x3000)]

def isBlank (c : Char) : Bool := inRanges blanks c.toNat

def spacingExtenders : List (Nat × Nat) :=
  [(0x9be, 0x9be), (0x9d7, 0x9d7), (0xb3e, 0xb3e), (0xb57, 0xb57), (0xbbe, 0xbbe), (0xbd7, 0xbd7),
    (0xcc0, 0xcc0), (0xcc2, 0xcc2), (0xcc7, 0xcc8), (0xcca, 0xccb), (0xcd5, 0xcd6), (0xd3e, 0xd3e),
    (0xd57, 0xd57), (0xdcf, 0xdcf), (0xddf, 0xddf), (0x1715, 0x1715), (0x1734, 0x1734),
    (0x1b35, 0x1b35), (0x1b3b, 0x1b3b), (0x1b3d, 0x1b3d), (0x1b43, 0x1b44), (0x1baa, 0x1baa),
    (0x1bf2, 0x1bf3), (0x302e, 0x302f), (0xa953, 0xa953), (0xa9c0, 0xa9c0), (0xff9e, 0xff9f),
    (0x111c0, 0x111c0), (0x11235, 0x11235), (0x1133e, 0x1133e), (0x1134d, 0x1134d),
    (0x11357, 0x11357), (0x113b8, 0x113b8), (0x113c2, 0x113c2), (0x113c5, 0x113c5),
    (0x113c7, 0x113c9), (0x113cf, 0x113cf), (0x114b0, 0x114b0), (0x114bd, 0x114bd),
    (0x115af, 0x115af), (0x116b6, 0x116b6), (0x11930, 0x11930), (0x1193d, 0x1193d),
    (0x11f41, 0x11f41), (0x16ff0, 0x16ff1), (0x1d165, 0x1d166), (0x1d16d, 0x1d172)]

/-- A character that would not be seen as itself: a control or other non-character, a separator
other than the space, or one that extends the character before it. -/
def isHidden (c : Char) : Bool :=
  let k := category c
  k.isOther || (k.isSeparator && c != ' ') || k == .mn || k == .me
    || inRanges spacingExtenders c.toNat

end Conformance.Unicode
