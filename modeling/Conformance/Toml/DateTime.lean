import Conformance.Text.Numeral

namespace Conformance.Toml

structure Date where
  year : Nat
  month : Nat
  day : Nat
  deriving DecidableEq, Repr

structure Time where
  hour : Nat
  minute : Nat
  second : Nat
  nanosecond : Nat
  deriving DecidableEq, Repr

inductive Offset
  | universal
  | ahead (minutes : Int)
  deriving DecidableEq, Repr

inductive DateTime
  | date (d : Date)
  | time (t : Time)
  | both (d : Date) (t : Time) (o : Option Offset)
  deriving DecidableEq, Repr

def Date.isLeapYear (year : Nat) : Bool := year % 4 = 0 && (year % 100 ≠ 0 || year % 400 = 0)

def Date.daysIn (year month : Nat) : Nat :=
  if month = 2 then (if isLeapYear year then 29 else 28)
  else if month = 4 || month = 6 || month = 9 || month = 11 then 30
  else 31

def Date.text (d : Date) : List Char :=
  Numeral.padded 4 d.year ++ '-' :: Numeral.padded 2 d.month ++ '-' :: Numeral.padded 2 d.day

def Time.fractionText (nanosecond : Nat) : List Char :=
  if nanosecond = 0 then []
  else '.' :: ((Numeral.padded 9 nanosecond).reverse.dropWhile (· = '0')).reverse

def Time.text (t : Time) : List Char :=
  Numeral.padded 2 t.hour ++ ':' :: Numeral.padded 2 t.minute ++ ':' :: Numeral.padded 2 t.second
    ++ fractionText t.nanosecond

def Offset.text : Offset → List Char
  | universal => ['Z']
  | ahead m =>
    (if m < 0 then '-' else '+') :: Numeral.padded 2 (m.natAbs / 60) ++ ':'
      :: Numeral.padded 2 (m.natAbs % 60)

def DateTime.text : DateTime → String
  | date d => String.ofList d.text
  | time t => String.ofList t.text
  | both d t o => String.ofList (d.text ++ 'T' :: t.text ++ (o.map Offset.text).getD [])

def readField (places lo hi : Nat) (cs : List Char) : Option (Nat × List Char) := do
  let ds := cs.take places
  if ds.length ≠ places then none
  else
    let n ← Numeral.value? ds
    if lo ≤ n && n ≤ hi then return (n, cs.drop places) else none

def readMark (mark : Char) : List Char → Option (List Char)
  | c :: rest => if c = mark then some rest else none
  | [] => none

def readDate (cs : List Char) : Option (Date × List Char) := do
  let (year, cs) ← readField 4 0 9999 cs
  let cs ← readMark '-' cs
  let (month, cs) ← readField 2 1 12 cs
  let cs ← readMark '-' cs
  let (day, cs) ← readField 2 1 (Date.daysIn year month) cs
  return (⟨year, month, day⟩, cs)

def readFraction : List Char → Option (Nat × List Char)
  | '.' :: rest => do
    let ds := (rest.takeWhile Numeral.isDigit).take 9
    let n ← Numeral.value? ds
    return (n * Nat.pow 10 (9 - ds.length), rest.dropWhile Numeral.isDigit)
  | rest => some (0, rest)

def readTime (cs : List Char) : Option (Time × List Char) := do
  let (hour, cs) ← readField 2 0 23 cs
  let cs ← readMark ':' cs
  let (minute, cs) ← readField 2 0 59 cs
  let cs ← readMark ':' cs
  let (second, cs) ← readField 2 0 60 cs
  let (nanosecond, cs) ← readFraction cs
  return (⟨hour, minute, second, nanosecond⟩, cs)

def readOffset (cs : List Char) : Option (Option Offset × List Char) :=
  match cs with
  | c :: rest =>
    if c = 'Z' || c = 'z' then some (some .universal, rest)
    else if c = '+' || c = '-' then do
      let (hours, rest) ← readField 2 0 23 rest
      let rest ← readMark ':' rest
      let (minutes, rest) ← readField 2 0 59 rest
      let total : Int := hours * 60 + minutes
      return (some (.ahead (if c = '-' then -total else total)), rest)
    else some (none, cs)
  | [] => some (none, [])

def startsWithField (places : Nat) (mark : Char) (cs : List Char) : Bool :=
  (cs.take places).all Numeral.isDigit && cs[places]? == some mark

/-- A date, a time of day, or both; a blank may stand between them only where a time follows. -/
def readDateTime (cs : List Char) : Option (DateTime × List Char) :=
  if startsWithField 4 '-' cs then do
    let (d, rest) ← readDate cs
    match rest with
    | c :: after =>
      if (c = 'T' || c = 't' || c = ' ') && startsWithField 2 ':' after then
        let (t, rest) ← readTime after
        let (o, rest) ← readOffset rest
        return (.both d t o, rest)
      else return (.date d, rest)
    | [] => return (.date d, [])
  else do
    let (t, rest) ← readTime cs
    return (.time t, rest)

def startsDateTime (cs : List Char) : Bool := startsWithField 4 '-' cs || startsWithField 2 ':' cs

end Conformance.Toml
