import Launchpad.Path
import Launchpad.Arguments.Sizing

/-!
The conformance suites: where each is unpacked, from which archives, and how its runner is started.
-/

namespace Launchpad

inductive TestSuite where
  | test262
  | testNashorn
  | testV8
  deriving DecidableEq, Repr, Inhabited

inductive WorkDirectory where
  | suiteRoot
  /-- The directory that the suite is unpacked into. -/
  | destination
  deriving DecidableEq, Repr, Inhabited

structure SuiteProfile where
  name : String
  /-- The directory that the suite is unpacked into, as seen from the suite root. -/
  destination : Path
  /-- The archives that are unpacked, in this order. -/
  artifacts : List String
  defaultVmArgs : List String
  maxHeap : String
  stackSize : String
  mainClass : String
  workDirectory : WorkDirectory
  deriving DecidableEq, Repr, Inhabited

namespace TestSuite

def all : List TestSuite := [.test262, .testNashorn, .testV8]

def profile (suite : TestSuite) (arch : Arch) : SuiteProfile :=
  let stack (large standard : String) : String :=
    match arch with
    | .largeStack => large
    | .standard => standard
  match suite with
  | .test262 =>
    { name := "test262"
      destination := .ofText "lib/test262"
      artifacts := ["TEST262"]
      defaultVmArgs := ["-Dpolyglot.js.test262-mode=true"]
      maxHeap := "4g"
      stackSize := stack "2m" "1m"
      mainClass := "com.oracle.truffle.js.test.external.test262.Test262"
      workDirectory := .suiteRoot }
  | .testNashorn =>
    { name := "testnashorn"
      destination := .ofText "lib/testnashorn"
      artifacts := ["TESTNASHORN", "TESTNASHORN_EXTERNAL"]
      defaultVmArgs :=
        ["-Dtruffle.js.NashornCompatibilityMode=true", "-Dtruffle.js.U180EWhitespace=true"]
      maxHeap := "2g"
      stackSize := stack "2m" "1m"
      mainClass := "com.oracle.truffle.js.test.external.nashorn.TestNashorn"
      workDirectory := .destination }
  | .testV8 =>
    { name := "testv8"
      destination := .ofText "lib/testv8"
      artifacts := ["TESTV8"]
      defaultVmArgs := []
      maxHeap := "8g"
      stackSize := stack "3m" "1m"
      mainClass := "com.oracle.truffle.js.test.external.testv8.TestV8"
      workDirectory := .suiteRoot }

end TestSuite

end Launchpad
