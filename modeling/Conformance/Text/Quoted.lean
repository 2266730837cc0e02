import Conformance.Text.Numeral
import Conformance.Unicode.Category

namespace Conformance.Quoted

def coded (c : Char) : List Char :=
  '\\' :: 'u' :: '\x7b' :: Numeral.hexDigits c.toNat ++ ['\x7d']

def escape (quote c : Char) : List Char :=
  if c = quote || c = '\\' then ['\\', c]
  else if c = '\n' then ['\\', 'n']
  else if c = '\r' then ['\\', 'r']
  else if c = '\t' then ['\\', 't']
  else if c = '\x00' then ['\\', '0']
  else if Unicode.isHidden c then coded c
  else [c]

def quoted (s : String) : String :=
  String.ofList ('"' :: s.toList.flatMap (escape '"') ++ ['"'])

def quotedChar (c : Char) : String :=
  String.ofList ('\'' :: escape '\'' c ++ ['\''])

end Conformance.Quoted
