import Launchpad.Gate.Matrix
import Launchpad.Launch.Shell

/-!
The tasks of the gate: two of their own, then one for every place in the matrix.
-/

namespace Launchpad.Gate

inductive TaskAction where
  /-- Start the engine's shell. -/
  | script (args : List String)
  /-- Run the package of unit tests for embedders. -/
  | scriptEngine
  /-- Run a command of the matrix. -/
  | test (command : TestCommand) (args : List String)
  deriving DecidableEq, Repr, Inhabited

structure Task where
  name : String
  tags : List String
  action : TaskAction
  deriving DecidableEq, Repr, Inhabited

namespace Task

/-- Do the work of a task, which has to end with the status zero. -/
def run (task : Task) (host : Host) : Action Int :=
  match task.action with
  | .script args => Shell.js.run host args .success
  | .scriptEngine =>
    UnitTests.runPackage host [] host.config.unitTest.scriptEnginePackage .success
  | .test command args => command.run host args .success

def ofVariant (command : TestCommand) (variant : Variant) : Task :=
  let name := command.name ++ "-" ++ variant.name
  ⟨name, [name, variant.name, allTag], .test command variant.args⟩

def all : List Task :=
  [⟨"TestJSCommand", [defaultTag, allTag], .script ["-Dtruffle.js.ProfileTime=true", "-e", "\"\""]⟩,
   ⟨"UnitTests", [defaultTag, allTag], .scriptEngine⟩] ++
  TestCommand.all.flatMap fun command => variants.map (ofVariant command)

end Task

end Launchpad.Gate
