/-!
The layout of an argument list for the virtual machine: stages in the order in which they were
added.
-/

namespace Launchpad.Arguments

inductive Stage where
  /-- Assertions switched on, and a classpath. -/
  | testStart (classpath : String)
  | vmArgs (args : List String)
  | mainClass (name : String)
  | programArgs (args : List String)
  deriving DecidableEq, Repr

def Stage.args : Stage → List String
  | .testStart classpath => ["-ea", "-esa", "-cp", classpath]
  | .vmArgs args => args
  | .mainClass name => [name]
  | .programArgs args => args

def layout (stages : List Stage) : List String :=
  stages.flatMap Stage.args

def layoutSteps (stages : List Stage) : List (List String) :=
  (List.range stages.length).map fun n => layout (stages.take (n + 1))

end Launchpad.Arguments
