import Conformance.Config.Mismatch
import Conformance.Coverage.TypePack
import Conformance.Files

namespace Conformance

inductive ConfigError
  | unreadable (path : String) (cause : IoError)
  | illTyped (path : String) (cause : Config.Mismatch)
  | unknownProfile (name : String) (known : List String)
  | unfitProfile (name : String) (cause : Config.Mismatch)
  | other (text : String)

namespace ConfigError

def message : ConfigError → String
  | unreadable path cause => "failed to read config file " ++ path ++ ": " ++ cause.message
  | illTyped path cause => "invalid config file " ++ path ++ ": " ++ cause.message
  | unknownProfile name [] => "profile '" ++ name ++ "' not found (no profiles defined)"
  | unknownProfile name known =>
    "profile '" ++ name ++ "' not found. Available profiles: " ++ ", ".intercalate known
  | unfitProfile name cause => "failed to apply profile '" ++ name ++ "': " ++ cause.message
  | other text => text

end ConfigError

structure DuplicateTest where
  name : String
  first : String
  second : String
  deriving DecidableEq, Repr

def DuplicateTest.message (e : DuplicateTest) : String :=
  "duplicate test name '" ++ e.name ++ "' (registered in " ++ e.first ++ " and " ++ e.second ++ ")"

inductive HarnessError
  | config (cause : ConfigError)
  | invalidSetting (field value : String)
  | duplicateTest (cause : DuplicateTest)
  | testNotFound (name : String)
  | typePack (cause : Coverage.LabelMismatch)
  | unusableDevice (device : String) (cause : DeviceError)
  | startup (text : String)
  | invalidPattern (complaint : String)
  | io (cause : IoError)
  | malformedToml (complaint : String)
  | malformedJson (complaint : String)

namespace HarnessError

def message : HarnessError → String
  | config cause => "Configuration error: " ++ cause.message
  | invalidSetting field value =>
    "Invalid configuration value for " ++ field ++ ": " ++ value
  | duplicateTest cause => "Registry error: " ++ cause.message
  | testNotFound name => "No registered test named '" ++ name ++ "'"
  | typePack cause => cause.message
  | unusableDevice device cause =>
    "Startup failure: device '" ++ device ++ "' is unusable: " ++ cause.message
  | startup text => "Startup failure: " ++ text
  | invalidPattern complaint => "Invalid test pattern: " ++ complaint
  | io cause => "IO error: " ++ cause.message
  | malformedToml complaint => "TOML parsing error: " ++ complaint
  | malformedJson complaint => "JSON error: " ++ complaint

def isConfiguration : HarnessError → Bool
  | config _ | invalidSetting _ _ | duplicateTest _ | testNotFound _ | typePack _
  | invalidPattern _ | malformedToml _ => true
  | unusableDevice _ _ | startup _ | io _ | malformedJson _ => false

def isStartup : HarnessError → Bool
  | unusableDevice _ _ | startup _ => true
  | _ => false

end HarnessError

inductive CaseError
  | device (cause : DeviceError)
  | harness (cause : HarnessError)
  | other (text : String)

def CaseError.message : CaseError → String
  | device cause => "device error: " ++ cause.message
  | harness cause => cause.message
  | other text => text

end Conformance
