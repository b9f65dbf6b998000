import Launchpad.Path
import Launchpad.Text.Blank
import Launchpad.Text.Quoted

/-!
Commands: what to launch, with which arguments, where, and where its output goes.
-/

namespace Launchpad

inductive OutputTarget where
  /-- To the stream of the program itself. -/
  | inherit
  /-- Nowhere. -/
  | null
  /-- Into a file, which is emptied first. -/
  | file (path : Path)
  deriving DecidableEq, Repr, Inhabited

structure Command where
  program : String
  args : List String
  cwd? : Option Path
  stdout : OutputTarget := .inherit
  stderr : OutputTarget := .inherit
  deriving DecidableEq, Repr, Inhabited

namespace Command

/-- How an argument is shown: between quotes when it is empty or holds white space. -/
def showArg (arg : String) : String :=
  if arg = "" || arg.toList.any Text.isBlank then Text.quote arg else arg

/-- A command as messages show it: the program and the arguments with spaces between them. -/
def display (c : Command) : String :=
  c.program ++ String.join (c.args.map (" " ++ showArg ·))

end Command

end Launchpad
