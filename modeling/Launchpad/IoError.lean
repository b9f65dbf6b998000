import Launchpad.Errno
import Launchpad.Path

/-!
Causes for which reading, writing or launching fails, and the text of each.
-/

namespace Launchpad

inductive IoError where
  /-- The operating system refused. -/
  | os (number : Errno)
  /-- A path holds the character NUL, so it cannot be handed over. -/
  | nulInPath
  /-- A program name or an argument holds the character NUL. -/
  | nulInArgument
  /-- A file is no UTF-8 text. -/
  | notText
  /-- A directory could not be listed on the way through a tree. -/
  | listing (path : Path) (number : Errno)
  /-- No ancestor of a directory to be made could be made. -/
  | noAncestor
  /-- An archive does not follow its format, or holds a member that may not be unpacked. -/
  | malformed (what : String)
  deriving DecidableEq, Repr, Inhabited

namespace IoError

def message : IoError → String
  | .os number => number.describe
  | .nulInPath => "file name contained an unexpected NUL byte"
  | .nulInArgument => "nul byte found in provided data"
  | .notText => "stream did not contain valid UTF-8"
  | .listing path number => "IO error for operation on " ++ path.text ++ ": " ++ number.describe
  | .noAncestor => "failed to create whole tree"
  | .malformed what => what

/-- The reason that the operating system gives; a cause that does not come from it is taken for a
missing entry. -/
def number : IoError → Errno
  | .os number => number
  | _ => .noEntry

end IoError

end Launchpad
