import Launchpad.Launch.Conformance
import Launchpad.Launch.UnitTests

/-!
The matrix of the gate: commands that test the engine, and the variants of settings that each of
them is run with.
-/

namespace Launchpad.Gate

inductive TestCommand where
  | test262
  | testNashorn
  | testV8
  | unitTest
  deriving DecidableEq, Repr, Inhabited

namespace TestCommand

def all : List TestCommand := [.test262, .testNashorn, .testV8, .unitTest]

def name : TestCommand → String
  | .test262 => "Test262"
  | .testNashorn => "TestNashorn"
  | .testV8 => "TestV8"
  | .unitTest => "TestUnittest"

def run (command : TestCommand) (host : Host) (args : List String)
    (expectation : Expectation) : Action Int :=
  match command with
  | .test262 => TestSuite.test262.run host args expectation
  | .testNashorn => TestSuite.testNashorn.run host args expectation
  | .testV8 => TestSuite.testV8.run host args expectation
  | .unitTest => UnitTests.run host args expectation

end TestCommand

/-- A named list of arguments that every command is run with. -/
structure Variant where
  name : String
  args : List String
  deriving DecidableEq, Repr, Inhabited

/-- The tag of tasks that belong to an ordinary run. -/
def defaultTag : String := "default"

def allTag : String := "all"

def variants : List Variant := [
  ⟨defaultTag, ["gate"]⟩,
  ⟨"noic", ["-Dtruffle.js.PropertyCacheLimit=0", "-Dtruffle.js.FunctionCacheLimit=0", "gate"]⟩,
  ⟨"directbytebuffer", ["-Dtruffle.js.DirectByteBuffer=true", "gate"]⟩,
  ⟨"cloneuninitialized", ["-Dtruffle.js.TestCloneUninitialized=true", "gate"]⟩,
  ⟨"lazytranslation", ["-Dtruffle.js.LazyTranslation=true", "gate"]⟩,
  ⟨"shareengine", ["gate", "shareengine"]⟩]

end Launchpad.Gate
