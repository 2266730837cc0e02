import Conformance.Pattern.CharSet

namespace Conformance.Pattern

open Unicode (Category)

/-- Property names are compared without case, blanks, hyphens, underscores and a leading `is`. -/
def plainName (name : List Char) : String :=
  let cs := (name.map Char.toLower).filter fun c ↦ c != ' ' && c != '_' && c != '-'
  String.ofList (match cs with
    | ['i', 's', 'c'] => cs
    | 'i' :: 's' :: rest => rest
    | _ => cs)

def categoryNamed? : String → Option Property
  | "lu" | "uppercaseletter" => some (.category .lu)
  | "ll" | "lowercaseletter" => some (.category .ll)
  | "lt" | "titlecaseletter" => some (.category .lt)
  | "lm" | "modifierletter" => some (.category .lm)
  | "lo" | "otherletter" => some (.category .lo)
  | "lc" | "casedletter" => some .casedLetter
  | "l" | "letter" => some .letter
  | "mn" | "nonspacingmark" => some (.category .mn)
  | "mc" | "spacingmark" => some (.category .mc)
  | "me" | "enclosingmark" => some (.category .me)
  | "m" | "mark" | "combiningmark" => some .mark
  | "nd" | "decimalnumber" | "digit" => some (.category .nd)
  | "nl" | "letternumber" => some (.category .nl)
  | "no" | "othernumber" => some (.category .no)
  | "n" | "number" => some .number
  | "pc" | "connectorpunctuation" => some (.category .pc)
  | "pd" | "dashpunctuation" => some (.category .pd)
  | "ps" | "openpunctuation" => some (.category .ps)
  | "pe" | "closepunctuation" => some (.category .pe)
  | "pi" | "initialpunctuation" => some (.category .pi)
  | "pf" | "finalpunctuation" => some (.category .pf)
  | "po" | "otherpunctuation" => some (.category .po)
  | "p" | "punctuation" | "punct" => some .punctuation
  | "sm" | "mathsymbol" => some (.category .sm)
  | "sc" | "currencysymbol" => some (.category .sc)
  | "sk" | "modifiersymbol" => some (.category .sk)
  | "so" | "othersymbol" => some (.category .so)
  | "s" | "symbol" => some .symbol
  | "zs" | "spaceseparator" => some (.category .zs)
  | "zl" | "lineseparator" => some (.category .zl)
  | "zp" | "paragraphseparator" => some (.category .zp)
  | "z" | "separator" => some .separator
  | "cc" | "control" | "cntrl" => some (.category .cc)
  | "cf" | "format" => some (.category .cf)
  | "co" | "privateuse" => some (.category .co)
  | "cn" | "unassigned" => some (.category .cn)
  | "c" | "other" => some .other
  | _ => none

def scriptSet? (name : String) : Option CharSet :=
  (Unicode.scriptNamed? name).map fun s ↦ .property (.script s)

def propertyNamed? (name : String) : Option CharSet :=
  match name with
  | "any" => some .all
  | "ascii" => some .ascii
  | "assigned" => some (.property .assigned)
  | "alphabetic" | "alpha" => some (.property .alphabetic)
  | "whitespace" | "wspace" | "space" => some (.property .blank)
  | "uppercase" | "upper" =>
    some (.union (.property (.category .lu)) (.ranges Unicode.furtherUppercase))
  | "lowercase" | "lower" =>
    some (.union (.property (.category .ll)) (.ranges Unicode.furtherLowercase))
  | "asciihexdigit" | "ahex" => some (.ranges [(48, 57), (65, 70), (97, 102)])
  | "hexdigit" | "hex" => some (.ranges Unicode.hexDigits)
  | "joincontrol" | "joinc" => some (.ranges [(0x200c, 0x200d)])
  | "ideographic" | "ideo" => some (.ranges Unicode.ideographs)
  | "dash" => some (.ranges Unicode.dashes)
  | "math" => some (.ranges Unicode.mathematical)
  | "emoji" => some (.ranges Unicode.emoji)
  | _ =>
    match categoryNamed? name with
    | some p => some (.property p)
    | none => scriptSet? name

def splitAtFirst (mark : List Char) : List Char → Option (List Char × List Char)
  | [] => none
  | c :: cs =>
    if mark.isPrefixOf (c :: cs) then some ([], (c :: cs).drop mark.length)
    else (splitAtFirst mark cs).map fun (front, rest) ↦ (c :: front, rest)

def valueSet? (key value : List Char) : Option CharSet :=
  match plainName key, plainName value with
  | "gc", "any" | "generalcategory", "any" => some .all
  | "gc", "ascii" | "generalcategory", "ascii" => some .ascii
  | "gc", "assigned" | "generalcategory", "assigned" => some (.property .assigned)
  | "gc", name | "generalcategory", name => (categoryNamed? name).map .property
  | "sc", name | "script", name => scriptSet? name
  | _, _ => none

def namedSet? (text : List Char) : Option CharSet :=
  match splitAtFirst ['!', '='] text, splitAtFirst [':'] text, splitAtFirst ['='] text with
  | some (key, value), _, _ => (valueSet? key value).map .complement
  | none, some (key, value), _ => valueSet? key value
  | none, none, some (key, value) => valueSet? key value
  | none, none, none => propertyNamed? (plainName text)

def digits : CharSet := .ranges [(48, 57)]

def asciiLetters : List (Nat × Nat) := [(65, 90), (97, 122)]

def asciiClass? : String → Option CharSet
  | "alnum" => some (.ranges ((48, 57) :: asciiLetters))
  | "alpha" => some (.ranges asciiLetters)
  | "ascii" => some .ascii
  | "blank" => some (.ranges [(9, 9), (32, 32)])
  | "cntrl" => some (.ranges [(0, 31), (127, 127)])
  | "digit" => some digits
  | "graph" => some (.ranges [(33, 126)])
  | "lower" => some (.ranges [(97, 122)])
  | "print" => some (.ranges [(32, 126)])
  | "punct" => some (.ranges [(33, 47), (58, 64), (91, 96), (123, 126)])
  | "space" => some (.ranges [(9, 13), (32, 32)])
  | "upper" => some (.ranges [(65, 90)])
  | "word" => some (.ranges ((48, 57) :: (95, 95) :: asciiLetters))
  | "xdigit" => some (.ranges [(48, 57), (65, 70), (97, 102)])
  | _ => none

/-- The class of a one-letter escape; a capital letter stands for the complement. -/
def shorthand? (unicode : Bool) (c : Char) : Option CharSet :=
  let s? := match c.toLower with
    | 'd' => some (if unicode then .property (.category .nd) else digits)
    | 's' => some (if unicode then .property .blank else .ranges [(9, 13), (32, 32)])
    | 'w' => some (if unicode then .property .word
        else .ranges ((48, 57) :: (95, 95) :: asciiLetters))
    | _ => none
  if c.isUpper then s?.map .complement else s?

end Conformance.Pattern
