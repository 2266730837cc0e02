import Conformance.TestCase

namespace Conformance.Suite.SubGroups

def body (env : TestEnv) : Script Unit := do
  if !env.device.has .subGroups then .skip "device does not support sub-groups"
  else match env.device.subGroupSize with
    | none => .fail "sub-groups are advertised but no sub-group size is reported"
    | some width =>
      let limit := env.device.maxWorkGroupSize
      .note ("sub-group size " ++ shown width ++ ", max work-group size " ++ shown limit)
      if ← Script.check (0 < width) "sub-group size is zero" then
        let _ ← Script.check (limit % width == 0) ("sub-group size " ++ shown width ++
          " does not divide max work-group size " ++ shown limit)
        return ()

def test : TestCase := ⟨⟨"sub_group_query", "src/suites/sub_group_query.rs"⟩, body⟩

end Conformance.Suite.SubGroups
