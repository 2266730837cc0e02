import Conformance.Toml.Document

namespace Conformance.Toml

def DateTime.ofText? (text : String) : Option DateTime :=
  match readDateTime text.toList with
  | some (d, []) => some d
  | _ => none

/-- The value of the first entry, if that has the reserved name. -/
def dateEntry? : List (String × Toml) → Option Toml
  | (k, v) :: _ => if k = dateTimeKey then some v else none
  | [] => none

mutual

/-- A reader that takes whatever comes is handed a date as a table with one entry of a reserved
name. A table that starts with this name is a date to it, too, and whatever else is in that table is
lost. -/
def untyped? : Toml → Option Toml
  | array es => (untypedElements? es).map array
  | table entries =>
    match dateEntry? entries with
    | some (string s) => (DateTime.ofText? s).map dateTime
    | some _ => none
    | none => (untypedEntries? entries).map table
  | t => some t

def untypedElements? : List Toml → Option (List Toml)
  | [] => some []
  | t :: ts => do return (← t.untyped?) :: (← untypedElements? ts)

def untypedEntries? : List (String × Toml) → Option (List (String × Toml))
  | [] => some []
  | (k, t) :: rest => do return (k, ← t.untyped?) :: (← untypedEntries? rest)

end

def ofUntypedText? (text : String) : Option Toml := (ofText? text).bind untyped?

end Conformance.Toml
