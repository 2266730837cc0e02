import Conformance.Shown

namespace Conformance.Config

inductive Found
  | null
  | bool (b : Bool)
  | int (n : Int)
  | float (x : Float)
  | text (s : String)
  | sequence
  | map

namespace Found

def description : Found → String
  | null => "null"
  | bool b => "boolean \x60" ++ shown b ++ "\x60"
  | int n => "integer \x60" ++ shown n ++ "\x60"
  | float x => "floating point \x60" ++ Decimal.interchange (Decimal.ofFloat x) ++ "\x60"
  | text s => "string " ++ shown s
  | sequence => "sequence"
  | map => "map"

end Found

inductive Mismatch
  | type (found : Found) (wanted : String)
  | value (found : Found) (wanted : String)
  | unknownName (name : String) (known : List String)
  /-- The element at this index of a record written as a list is missing. -/
  | tooShort (index : Nat) (wanted : String)
  | tooLong (length : Nat)

namespace Mismatch

def message : Mismatch → String
  | type found wanted => "invalid type: " ++ found.description ++ ", expected " ++ wanted
  | value found wanted => "invalid value: " ++ found.description ++ ", expected " ++ wanted
  | unknownName name known =>
    "unknown variant \x60" ++ name ++ "\x60, expected one of " ++
      ", ".intercalate (known.map fun k ↦ "\x60" ++ k ++ "\x60")
  | tooShort index wanted => "invalid length " ++ shown index ++ ", expected " ++ wanted
  | tooLong length =>
    "invalid length " ++ shown length ++ ", expected fewer elements in array"

end Mismatch

end Conformance.Config
