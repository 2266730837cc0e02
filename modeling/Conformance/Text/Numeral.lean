namespace Conformance.Numeral

def digitChar (d : Nat) : Char := Char.ofNat (48 + d)

def isDigit (c : Char) : Bool := 48 ≤ c.toNat && c.toNat ≤ 57

def digitValue (c : Char) : Nat := c.toNat - 48

def digits (n : Nat) : List Char :=
  if n < 10 then [digitChar n] else digits (n / 10) ++ [digitChar (n % 10)]
termination_by n

def text (n : Nat) : String := String.ofList (digits n)

def intText : Int → String
  | .ofNat n => text n
  | .negSucc n => String.ofList ('-' :: digits (n + 1))

/-- The number written by a run of decimal digits, continued from `acc`. -/
def valueFrom (acc : Nat) : List Char → Option Nat
  | [] => some acc
  | c :: cs => if isDigit c then valueFrom (10 * acc + digitValue c) cs else none

def value? : List Char → Option Nat
  | [] => none
  | c :: cs => valueFrom 0 (c :: cs)

/-- A numeral below `limit`, which may start with a plus sign. -/
def readNat (limit : Nat) (cs : List Char) : Option Nat :=
  (value? (match cs with | '+' :: rest => rest | _ => cs)).filter (· < limit)

def readInt (lo hi : Int) (cs : List Char) : Option Int :=
  let signed : Option Int := match cs with
    | '-' :: rest => (value? rest).map fun n ↦ -(n : Int)
    | '+' :: rest => (value? rest).map (Int.ofNat ·)
    | _ => (value? cs).map (Int.ofNat ·)
  signed.filter fun n ↦ lo ≤ n && n ≤ hi

def hexDigitChar (d : Nat) : Char :=
  if d < 10 then digitChar d else Char.ofNat (87 + d)

def hexDigits (n : Nat) : List Char :=
  if n < 16 then [hexDigitChar n] else hexDigits (n / 16) ++ [hexDigitChar (n % 16)]
termination_by n

def digitValue? (radix : Nat) (c : Char) : Option Nat :=
  let v := if isDigit c then some (digitValue c)
    else if 97 ≤ c.toNat && c.toNat ≤ 102 then some (c.toNat - 87)
    else if 65 ≤ c.toNat && c.toNat ≤ 70 then some (c.toNat - 55)
    else none
  v.filter (· < radix)

def radixValue? (radix : Nat) (cs : List Char) : Option Nat :=
  cs.foldlM (fun acc c ↦ (digitValue? radix c).map (radix * acc + ·)) 0

def padded (width : Nat) (n : Nat) : List Char :=
  List.replicate (width - (digits n).length) '0' ++ digits n

end Conformance.Numeral
