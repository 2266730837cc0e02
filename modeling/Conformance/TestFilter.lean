import Conformance.Pattern.Reading

namespace Conformance

def occursIn (part whole : List Char) : Bool :=
  part.isPrefixOf whole || match whole with
    | [] => false
    | _ :: rest => occursIn part rest

inductive TestFilter
  | all
  | substring (part : String)
  | exact (name : String)
  | pattern (p : Pattern)

namespace TestFilter

def selects : TestFilter → String → Bool
  | all, _ => true
  | substring part, name => occursIn part.toList name.toList
  | exact n, name => name == n
  | pattern p, name => p.matchesIn name

def kind : TestFilter → String
  | all => "all"
  | substring _ => "substring"
  | exact _ => "exact"
  | pattern _ => "pattern"

end TestFilter

end Conformance
