import Conformance.Registry
import Conformance.Suite.Capabilities
import Conformance.Suite.Copy
import Conformance.Suite.Reduction
import Conformance.Suite.SubGroups
import Conformance.Suite.WorkGroups

namespace Conformance.Suite

def all : List TestCase :=
  [Capabilities.test, Copy.test, Reduction.test, SubGroups.test, WorkGroups.test]

def registry : Except DuplicateTest Registry := Registry.ofAnnounced all

end Conformance.Suite
