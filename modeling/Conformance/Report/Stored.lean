import Conformance.Json.Printer
import Conformance.Json.Tree
import Conformance.Report.Basic

namespace Conformance

open Json (Tree Piece)

namespace Location

def toJson (l : Location) : Json := .obj [("file", .str l.file), ("line", .nat l.line)]

end Location

namespace Event

def toJson : Event → Json
  | pass => .obj [("kind", .str "pass")]
  | fail message location =>
    .obj [("kind", .str "fail"), ("message", .str message),
      ("location", Json.optional Location.toJson location)]
  | skip reason => .obj [("kind", .str "skip"), ("reason", .str reason)]
  | note message => .obj [("kind", .str "note"), ("message", .str message)]

end Event

namespace Duration

def toJson (d : Duration) : Json :=
  .obj [("secs", .nat d.seconds), ("nanos", .nat d.subsecond)]

end Duration

namespace Descriptor

def toJson (d : Descriptor) : Json :=
  .obj [("name", .str d.name), ("source_location", .str d.source)]

end Descriptor

namespace Outcome

def toJson (o : Outcome) : Json :=
  .obj [("descriptor", o.descriptor.toJson), ("status", .str o.status.name),
    ("events", .arr (o.events.map Event.toJson)), ("duration", o.duration.toJson),
    ("timed_out", .bool o.timedOut)]

end Outcome

namespace RunReport

def toJson (r : RunReport) : Json :=
  .obj [("outcomes", .arr (r.outcomes.map Outcome.toJson)), ("passed", .nat r.passed),
    ("failed", .nat r.failed), ("skipped", .nat r.skipped)]

def stored (r : RunReport) : String := r.toJson.pretty

end RunReport

def Json.sole? {α : Type} (k : String) (members : List (String × α)) : Option α :=
  match members.filter (·.1 == k) with
  | [(_, a)] => some a
  | _ => none

def Json.atMostOne? {α : Type} (k : String) (members : List (String × α)) : Option (Option α) :=
  match members.filter (·.1 == k) with
  | [] => some none
  | [(_, a)] => some (some a)
  | _ => none

def Location.ofJson? : Json → Option Location
  | .obj ms => do
    return ⟨← (← Json.sole? "file" ms).asString?, ← (← Json.sole? "line" ms).asNat? halfWordLimit⟩
  | .arr [file, line] => do return ⟨← file.asString?, ← line.asNat? halfWordLimit⟩
  | _ => none

def Location.optionalOfJson? : Option Json → Option (Option Location)
  | none => some none
  | some .null => some none
  | some j => (Location.ofJson? j).map some

namespace Event

def ofMembers? (kind : String) (ms : List (String × Json)) : Option Event :=
  match kind with
  | "pass" => some .pass
  | "fail" => do
    return .fail (← (← Json.sole? "message" ms).asString?)
      (← Location.optionalOfJson? (← Json.atMostOne? "location" ms))
  | "skip" => do return .skip (← (← Json.sole? "reason" ms).asString?)
  | "note" => do return .note (← (← Json.sole? "message" ms).asString?)
  | _ => none

def ofFields? : String → List Json → Option Event
  | "pass", [] => some .pass
  | "fail", [message, location] => do
    return .fail (← message.asString?) (← Location.optionalOfJson? (some location))
  | "skip", [reason] => do return .skip (← reason.asString?)
  | "note", [message] => do return .note (← message.asString?)
  | _, _ => none

/-- An event is tagged with its kind, as a member or as the first element of an array. -/
def ofJson? : Json → Option Event
  | .obj ms => do ofMembers? (← (← Json.sole? "kind" ms).asString?) ms
  | .arr (.str kind :: fields) => ofFields? kind fields
  | _ => none

def depthLimit : Nat := 123

/-- Every lexeme in an event has to have a value, even in a member that is passed over. -/
def ofTree? (t : Tree) : Option Event :=
  if t.depth ≤ depthLimit then t.value?.bind ofJson? else none

end Event

namespace Json

def named (ms : List (List Piece × Tree)) : Option (List (String × Tree)) :=
  ms.mapM fun (k, t) ↦ (decodePieces k).map fun k ↦ (String.ofList k, t)

def Tree.asString? : Tree → Option String
  | .string pieces => (decodePieces pieces).map String.ofList
  | _ => none

def Tree.asNat? (limit : Nat) : Tree → Option Nat
  | .number n => n.value?.bind (Json.asNat? limit)
  | _ => none

def Tree.asBool? : Tree → Option Bool
  | .bool b => some b
  | _ => none

def Tree.asList? {α : Type} (f : Tree → Option α) : Tree → Option (List α)
  | .array es => es.mapM f
  | _ => none

end Json

namespace Descriptor

def ofTree? : Tree → Option Descriptor
  | .object ms => do
    let ms ← Json.named ms
    return ⟨← (← Json.sole? "name" ms).asString?, ← (← Json.sole? "source_location" ms).asString?⟩
  | .array [name, source] => do return ⟨← name.asString?, ← source.asString?⟩
  | _ => none

end Descriptor

namespace Status

def ofTree? : Tree → Option Status
  | .string pieces => (decodePieces pieces).bind fun cs ↦ ofName? (String.ofList cs)
  | .object [(pieces, .null)] => (decodePieces pieces).bind fun cs ↦ ofName? (String.ofList cs)
  | _ => none
where decodePieces := Json.decodePieces

end Status

namespace Duration

/-- Nanoseconds from a full second upwards are carried over, within the range of the seconds. -/
def ofParts? (secs nanos : Nat) : Option Duration :=
  if secs + nanos / perSecond < wordLimit then some ⟨secs * perSecond + nanos⟩ else none

def ofTree? : Tree → Option Duration
  | .object ms => do
    let ms ← Json.named ms
    if ms.length ≠ 2 then none
    else
      let secs ← (← Json.sole? "secs" ms).asNat? wordLimit
      let nanos ← (← Json.sole? "nanos" ms).asNat? halfWordLimit
      ofParts? secs nanos
  | .array [secs, nanos] => do
    let secs ← secs.asNat? wordLimit
    let nanos ← nanos.asNat? halfWordLimit
    ofParts? secs nanos
  | _ => none

end Duration

namespace Outcome

def ofParts? (descriptor status events duration : Tree) (timedOut : Option Tree) :
    Option Outcome := do
  return {
    descriptor := ← Descriptor.ofTree? descriptor
    status := ← Status.ofTree? status
    events := ← events.asList? Event.ofTree?
    duration := ← Duration.ofTree? duration
    timedOut := ← match timedOut with
      | none => some false
      | some t => t.asBool? }

def ofTree? : Tree → Option Outcome
  | .object ms => do
    let ms ← Json.named ms
    ofParts? (← Json.sole? "descriptor" ms) (← Json.sole? "status" ms)
      (← Json.sole? "events" ms) (← Json.sole? "duration" ms)
      (← Json.atMostOne? "timed_out" ms)
  | .array [descriptor, status, events, duration] =>
    ofParts? descriptor status events duration none
  | .array [descriptor, status, events, duration, timedOut] =>
    ofParts? descriptor status events duration (some timedOut)
  | _ => none

end Outcome

namespace RunReport

def ofParts? (outcomes passed failed skipped : Tree) : Option RunReport := do
  return ⟨← outcomes.asList? Outcome.ofTree?, ← passed.asNat? wordLimit,
    ← failed.asNat? wordLimit, ← skipped.asNat? wordLimit⟩

def ofTree? : Tree → Option RunReport
  | .object ms => do
    let ms ← Json.named ms
    ofParts? (← Json.sole? "outcomes" ms) (← Json.sole? "passed" ms)
      (← Json.sole? "failed" ms) (← Json.sole? "skipped" ms)
  | .array [outcomes, passed, failed, skipped] => ofParts? outcomes passed failed skipped
  | _ => none

/-- The reader takes more than is ever written: members in any order, members that it does not know,
a record as an array of its fields, and a file from before tests could time out. -/
def ofStored? (text : String) : Option RunReport :=
  (Tree.ofChars text.toList).bind ofTree?

end RunReport

end Conformance
