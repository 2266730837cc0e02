namespace Conformance

def wordLimit : Nat := 18446744073709551616

def halfWordLimit : Nat := 4294967296

inductive Overflow
  | addition
  | multiplication
  deriving DecidableEq, Repr

def Overflow.message : Overflow → String
  | addition => "attempt to add with overflow"
  | multiplication => "attempt to multiply with overflow"

def addWord (a b : Nat) : Except Overflow Nat :=
  if a + b < wordLimit then .ok (a + b) else .error .addition

def mulWord (a b : Nat) : Except Overflow Nat :=
  if a * b < wordLimit then .ok (a * b) else .error .multiplication

end Conformance
