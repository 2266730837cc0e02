import Conformance.Device.Host
import Conformance.Json.Basic
import Conformance.Report.Text

namespace Conformance

structure FilterConfig where
  pattern : Option String := none
  exact : Bool := false
  regex : Bool := false
  exclude : List String := []
  deriving DecidableEq, Repr, Inhabited

structure RunConfig where
  timeout : Option Nat := none
  deriving DecidableEq, Repr, Inhabited

structure ReportConfig where
  showNotes : NotesPolicy := .onFailure
  json : Option String := none
  deriving DecidableEq, Repr, Inhabited

structure Config where
  filter : FilterConfig := {}
  run : RunConfig := {}
  report : ReportConfig := {}
  device : DeviceConfig := {}
  parameters : Dictionary String := []
  verbose : Bool := false
  deriving DecidableEq, Repr, Inhabited

def defaultConfigFile : String := "cts-harness.toml"

open Json (optional nat)

def FilterConfig.toJson (c : FilterConfig) : Json :=
  .obj [("exact", .bool c.exact), ("exclude", .arr (c.exclude.map .str)),
    ("pattern", optional .str c.pattern), ("regex", .bool c.regex)]

def RunConfig.toJson (c : RunConfig) : Json := .obj [("timeout", optional nat c.timeout)]

def ReportConfig.toJson (c : ReportConfig) : Json :=
  .obj [("json", optional .str c.json), ("show-notes", .str c.showNotes.name)]

def DeviceConfig.toJson (c : DeviceConfig) : Json :=
  .obj [("atomic64", .bool c.atomic64), ("fp64", .bool c.fp64),
    ("max-work-group-size", nat c.maxWorkGroupSize),
    ("sub-group-size", optional nat c.subGroupSize), ("threads", nat c.threads)]

def Config.toJson (c : Config) : Json :=
  .obj [("device", c.device.toJson), ("filter", c.filter.toJson),
    ("parameters", .obj (c.parameters.map fun (k, v) ↦ (k, .str v))),
    ("report", c.report.toJson), ("run", c.run.toJson), ("verbose", .bool c.verbose)]

end Conformance
