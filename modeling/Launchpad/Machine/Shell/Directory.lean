import Launchpad.Machine.Shell.Options

/-!
The directory of a shell. A shell remembers the way by which it came to its directory, so links on
the way can be seen in the directory's path.
-/

namespace Launchpad.Machine.Shell

/-- A path without dots, taken from a directory. -/
def plainDirectory (from_ path : Octets) : Octets :=
  let whole := if path.startsWith "/" then path else from_ ++ "/" ++ path
  let steps := (whole.splitOn "/").foldl (fun (done : List Octets) part =>
    if part = "" || part = "." then done
    else if part = ".." then done.drop 1
    else part :: done) []
  "/" ++ "/".intercalate steps.reverse

/-- The path of the directory without links. -/
def physicalDirectory (files : FileSystem) : Octets :=
  Octets.ofPath (Location.toPath files.here)

/-- Go to a directory. The answer tells whether that was possible. -/
def enter (physical : Bool) (target : Octets) : Step Bool := do
  let s ← Step.shell
  let files ← Step.files
  let logical := plainDirectory s.directory target
  match files.status (Octets.path (if physical then target else logical)) with
  | .ok (l, e) =>
    if e.isDirectory && e.executable then
      let before := s.directory
      Step.alterSession fun session => { session with files.here := l }
      let after ← Step.files
      let now := if physical then physicalDirectory after else logical
      Step.alter fun s => ((((s.assign "OLDPWD" before).publish "OLDPWD").assign "PWD"
        now).publish "PWD")
      Step.alter fun s => { s with directory := now }
      return true
    else return false
  | .error _ => return false

/-- Go to the first of several directories that can be entered. -/
def enterFirst (physical : Bool) : List Octets → Step (Option Octets)
  | [] => return none
  | target :: rest => do
    if ← enter physical target then return some target else enterFirst physical rest

/-- The command `cd`. -/
def changeDirectory (args : List Octets) : Step Nat := do
  let (options, operands) ← flags "LP" "" args
  let physical := options.getLast?.any (·.1 = 'P')
  let s ← Step.shell
  let (target, announce) : Octets × Bool := match operands with
    | [] => ((s.value? "HOME").getD "", false)
    | "-" :: _ => ((s.value? "OLDPWD").getD "", true)
    | target :: _ => (target, false)
  let isPlain := target.startsWith "/" || target = "." || target = ".." ||
    target.startsWith "./" || target.startsWith "../"
  let named := if target = "" then "." else target
  let searched := match (if isPlain then none else s.value? "CDPATH") with
    | some text => (text.splitOn ":").map fun directory =>
        if directory = "" then named else directory ++ "/" ++ named
    | none => []
  match ← enterFirst physical (searched ++ [named]) with
  | some found =>
    if announce || (found ≠ named && searched.contains found) then
      Step.print 1 ((← Step.shell).directory ++ "\n")
    return 0
  | none => Step.fail ("can't cd to " ++ target)

/-- The command `pwd`. -/
def printDirectory (args : List Octets) : Step Nat := do
  let (options, _) ← flags "LP" "" args
  let s ← Step.shell
  let files ← Step.files
  let physical := options.getLast?.any (·.1 = 'P')
  Step.print 1 ((if physical then physicalDirectory files else s.directory) ++ "\n")
  return 0

end Launchpad.Machine.Shell
