import Launchpad.Host
import Launchpad.Text.Blank

/-!
Deployment of binaries. It is done from one branch only, which the configuration names; from any
other it is passed over with a warning.
-/

namespace Launchpad.Deployment

inductive Outcome where
  /-- The deploying program ran and ended with a status. -/
  | deployed (status : Int)
  /-- Another branch than the primary one is active, and nothing ran. -/
  | skipped (active primary : String)
  deriving DecidableEq, Repr, Inhabited

/-- The status that a deployment gives to the program; one that was passed over is no failure. -/
def Outcome.status : Outcome → Int
  | .deployed status => status
  | .skipped _ _ => 0

/-- The command that prints the name of the active branch. -/
def branchQuery (host : Host) : Command :=
  { program := "git"
    args := ["rev-parse", "--abbrev-ref", "HEAD"]
    cwd? := some host.config.suite.directory
    stderr := .null }

def activeBranch (host : Host) : Action String := do
  let (status, output) ← host.executor.call .capture (branchQuery host)
  if status ≠ 0 then throw (.child (branchQuery host) status)
  return Text.trim output

/-- The command that deploys: the configured one, with more arguments behind its own. -/
def command? (host : Host) (args : List String) : Option Command :=
  match host.config.deploy.command with
  | [] => none
  | program :: leading =>
    some { program := program, args := leading ++ args, cwd? := some host.config.suite.directory }

def warning (active primary : String) : String :=
  "The active branch is \"" ++ active ++
    "\". Binaries are deployed only if the active branch is \"" ++ primary ++ "\"."

/-- Deploy, or pass over the deployment when the primary branch is not active. -/
def run (host : Host) (args : List String) : Action Outcome := do
  let primary := host.config.suite.primaryBranch
  let active ← activeBranch host
  if active ≠ primary then
    Action.log .warn (warning active primary)
    return .skipped active primary
  else match command? host args with
    | none => throw (.config (.invalid .commandEmpty))
    | some launch => return .deployed (← host.await launch .anyStatus)

end Launchpad.Deployment
