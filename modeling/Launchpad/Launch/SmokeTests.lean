import Launchpad.FileSystem.Listing
import Launchpad.Host

/-!
Smoke tests: one launch of a built program over every script below one directory of the suite.
-/

namespace Launchpad.SmokeTests

/-- The directory of the scripts, as seen from the suite root. -/
def directory : Path := .ofText "test/smoketest"

/-- The flag that the program always gets. -/
def firstFlag : String := "--js.intl-402"

/-- A script is a file, no link, with the extension of scripts. -/
def isScript (p : Path) (e : Entry) : Bool :=
  e.isFile && p.extension? = some (Name.ofText "js")

/-- The scripts below a directory, in the order of a walk through the tree. -/
def scripts (files : FileSystem) (top : Path) : Except Failure (List Path) := do
  match files.walkTree top with
  | .ok found => .ok ((found.filter fun (p, e) => isScript p e).map (·.1))
  | .error cause =>
    let place := match cause with
      | .listing path _ => path
      | _ => top
    .error (.io .walkingSmokeTests place cause)

def command (binary : Path) (scripts : List Path) : Command :=
  { program := binary.text, args := firstFlag :: scripts.map (·.text), cwd? := none }

/-- Launch a program over all scripts; without scripts nothing is launched. -/
def run (host : Host) (binary : Path) : Action Int := do
  let top := host.config.suitePath directory
  let files ← Action.files
  if !files.isDirectory top then throw (.noSmokeTests top)
  else
    let found ← Action.ofExcept id (scripts files top)
    if found = [] then throw (.noSmokeTests top)
    else host.await (command binary found) .success

end Launchpad.SmokeTests
