import Launchpad.Failure
import Launchpad.Text.Blank

/-!
The configuration: where the suite lives, which jars a launch needs, where archives are found, and
which programs are started. Every field has a default. Relative paths are understood from the suite
root.
-/

namespace Launchpad

/-- The suite root, the program that starts the virtual machine, and the branch that releases come
from. -/
structure SuiteSection where
  directory : Path := .ofText "."
  java : String := "java"
  primaryBranch : String := "master"
  deriving DecidableEq, Repr, Inhabited

/-- The jars for each kind of launch. Tool jars go with both others. -/
structure ClasspathSection where
  launcher : List String := []
  tests : List String := []
  tools : List String := []
  deriving DecidableEq, Repr, Inhabited

structure LauncherSection where
  mainClass : String := "com.oracle.truffle.js.shell.JSLauncher"
  legacyMainClass : String := "jdk.nashorn.tools.Shell"
  deriving DecidableEq, Repr, Inhabited

/-- The main class of the runner of unit tests, and what it may be pointed at. -/
structure UnitTestSection where
  mainClass : String := "com.oracle.mxtool.junit.MxJUnitWrapper"
  package : String := "com.oracle.truffle.js.test"
  scriptEnginePackage : String := "com.oracle.truffle.js.scriptengine.test"
  deriving DecidableEq, Repr, Inhabited

/-- The program that deploys binaries, with the arguments that come before the user's. -/
structure DeploySection where
  command : List String := ["mx", "deploy-binary"]
  deriving DecidableEq, Repr, Inhabited

structure Config where
  suite : SuiteSection := {}
  classpath : ClasspathSection := {}
  /-- The path of each archive by its name. -/
  artifacts : List (String × Path) := []
  launcher : LauncherSection := {}
  unitTest : UnitTestSection := {}
  deploy : DeploySection := {}
  deriving DecidableEq, Repr, Inhabited

namespace Config

def suitePath (c : Config) (p : Path) : Path :=
  if p.isAbsolute then p else c.suite.directory.join p

/-- Entries of a classpath, followed by the tools, as seen from the suite root. -/
def withTools (c : Config) (entries : List String) : List String :=
  (entries ++ c.classpath.tools).map fun entry => (c.suitePath (.ofText entry)).text

def launcherClasspath (c : Config) : List String :=
  c.withTools c.classpath.launcher

def testsClasspath (c : Config) : List String :=
  c.withTools c.classpath.tests

/-- The first thing a configuration lacks, if it lacks any: a program to run, a branch to deploy
from, a program to deploy with. -/
def invalid? (c : Config) : Option Invalid :=
  if Text.isBlankText c.suite.java then some .javaBlank
  else if Text.isBlankText c.suite.primaryBranch then some .branchBlank
  else if c.deploy.command = [] then some .commandEmpty
  else none

def validate (c : Config) : Except ConfigFailure Unit :=
  match c.invalid? with
  | some why => .error (.invalid why)
  | none => .ok ()

end Config

end Launchpad
