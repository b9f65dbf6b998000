import Launchpad.Arguments.Layout
import Launchpad.Arguments.Partition
import Launchpad.Copy
import Launchpad.Suite

/-!
Conformance runs. A suite is kept as an unpacked copy below the suite root; once that is current,
the runner of the suite starts with the test jars, the suite's own flags, the user's flags with
default sizes, and the user's arguments.
-/

namespace Launchpad

open Arguments

namespace SuiteProfile

def copy (profile : SuiteProfile) (c : Config) : Copy :=
  ⟨c.suitePath profile.destination, profile.artifacts⟩

def workPath (profile : SuiteProfile) (c : Config) : Path :=
  match profile.workDirectory with
  | .suiteRoot => c.suite.directory
  | .destination => (profile.copy c).directory

/-- The sizes for a suite: its own for the greatest heap and the stack, the interactive one for the
least heap. -/
def sizing (profile : SuiteProfile) (arch : Arch) : Sizing :=
  { Sizing.interactive arch with
    maxHeap? := some profile.maxHeap
    stack? := some profile.stackSize }

def command (profile : SuiteProfile) (host : Host) (args : List String) :
    Except DanglingFlag Command := do
  let parts ← partition args [] false
  let vmArgs := appendSizing parts.vmArgs (profile.sizing host.arch)
  let list := layout [
    .testStart (joinClasspath host.config.testsClasspath),
    .vmArgs profile.defaultVmArgs,
    .vmArgs vmArgs,
    .mainClass profile.mainClass,
    .programArgs parts.remainder]
  return host.java list (some (profile.workPath host.config))

/-- Bring the copy of a suite up to date, then start its runner. -/
def run (profile : SuiteProfile) (host : Host) (args : List String) (expectation : Expectation) :
    Action Int := do
  let outcome ← (profile.copy host.config).ensureCurrent host
  Action.log .debug "Suite fetched"
    [("suite", .name profile.name), ("outcome", .plain outcome.word)]
  let launch ← Action.ofExcept .argument (profile.command host args)
  host.await launch expectation

end SuiteProfile

def TestSuite.run (suite : TestSuite) (host : Host) (args : List String)
    (expectation : Expectation) : Action Int :=
  (suite.profile host.arch).run host args expectation

end Launchpad
