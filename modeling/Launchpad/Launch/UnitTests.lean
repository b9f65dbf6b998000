import Launchpad.Arguments.Layout
import Launchpad.Arguments.Partition
import Launchpad.Host

/-!
Unit tests, which a runner of their own finds by package. It is always told to time its tests and
to name each of them.
-/

namespace Launchpad.UnitTests

open Arguments

def runnerFlags : List String := ["--enable-timing", "--very-verbose"]

/-- The command that starts the runner: flags of the virtual machine are taken out of the arguments,
and the rest goes to the runner between its own flags and the trailing arguments. -/
def command (host : Host) (args trailing : List String) : Except DanglingFlag Command := do
  let parts ← partition args [] false
  let list := layout [
    .testStart (joinClasspath host.config.testsClasspath),
    .vmArgs parts.vmArgs,
    .mainClass host.config.unitTest.mainClass,
    .programArgs runnerFlags,
    .programArgs parts.remainder,
    .programArgs trailing]
  return host.java list (some host.config.suite.directory)

def runPackage (host : Host) (args : List String) (package : String) (expectation : Expectation) :
    Action Int := do
  let launch ← Action.ofExcept .argument (command host args [package])
  host.await launch expectation

/-- Start the runner on the package that the configuration names. -/
def run (host : Host) (args : List String) (expectation : Expectation) : Action Int :=
  runPackage host args host.config.unitTest.package expectation

end Launchpad.UnitTests
