import Conformance.Json.Basic
import Conformance.Toml.DateTime

namespace Conformance

inductive Toml
  | string (s : String)
  | integer (n : Int)
  | float (x : Float)
  | boolean (b : Bool)
  | dateTime (d : Toml.DateTime)
  | array (elements : List Toml)
  | table (entries : List (String × Toml))
  deriving Inhabited

namespace Toml

/-- The one member of an object that stands for a date or time. -/
def dateTimeKey : String := "$__toml_private_datetime"

mutual

/-- JSON has no value for a number that is not finite, and its objects are sorted here. -/
def toJson : Toml → Json
  | string s => .str s
  | integer n => .int n
  | float x => if x.isFinite then .float x else .null
  | boolean b => .bool b
  | dateTime d => .obj [(dateTimeKey, .str d.text)]
  | array es => .arr (elementsToJson es)
  | table entries => .obj (entriesToJson entries)

def elementsToJson : List Toml → List Json
  | [] => []
  | t :: ts => t.toJson :: elementsToJson ts

def entriesToJson : List (String × Toml) → Dictionary Json
  | [] => []
  | (k, t) :: rest => Dictionary.insert k t.toJson (entriesToJson rest)

end

end Toml

end Conformance
