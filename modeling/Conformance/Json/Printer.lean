import Conformance.Decimal.Floating
import Conformance.Json.Basic

namespace Conformance.Json

def escape (c : Char) : List Char :=
  if c = '"' then ['\\', '"']
  else if c = '\\' then ['\\', '\\']
  else if c = '\n' then ['\\', 'n']
  else if c = '\r' then ['\\', 'r']
  else if c = '\t' then ['\\', 't']
  else if c = '\x08' then ['\\', 'b']
  else if c = '\x0c' then ['\\', 'f']
  else if c.toNat < 32 then
    ['\\', 'u', '0', '0', Numeral.hexDigitChar (c.toNat / 16), Numeral.hexDigitChar (c.toNat % 16)]
  else [c]

def stringChars (s : String) : List Char :=
  '"' :: s.toList.flatMap escape ++ ['"']

def lineBreak (level : Nat) : List Char := '\n' :: List.replicate (2 * level) ' '

mutual

def prettyChars (level : Nat) : Json → List Char
  | .null => "null".toList
  | .bool b => (if b then "true" else "false").toList
  | .int n => (Numeral.intText n).toList
  | .float x => (Decimal.interchange (Decimal.ofFloat x)).toList
  | .str s => stringChars s
  | .arr [] => ['[', ']']
  | .arr (e :: es) =>
    '[' :: lineBreak (level + 1) ++ prettyChars (level + 1) e ++ prettyElements (level + 1) es
      ++ lineBreak level ++ [']']
  | .obj [] => ['\x7b', '\x7d']
  | .obj ((k, v) :: ms) =>
    '\x7b' :: lineBreak (level + 1) ++ stringChars k ++ [':', ' '] ++ prettyChars (level + 1) v
      ++ prettyMembers (level + 1) ms ++ lineBreak level ++ ['\x7d']

def prettyElements (level : Nat) : List Json → List Char
  | [] => []
  | e :: es => ',' :: lineBreak level ++ prettyChars level e ++ prettyElements level es

def prettyMembers (level : Nat) : List (String × Json) → List Char
  | [] => []
  | (k, v) :: ms =>
    ',' :: lineBreak level ++ stringChars k ++ [':', ' '] ++ prettyChars level v
      ++ prettyMembers level ms

end

def pretty (j : Json) : String := String.ofList (prettyChars 0 j)

end Conformance.Json
