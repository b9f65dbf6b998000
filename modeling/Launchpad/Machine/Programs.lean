import Launchpad.Machine.Programs.Archiving
import Launchpad.Machine.Programs.Columns
import Launchpad.Machine.Programs.Comparing
import Launchpad.Machine.Programs.Conditions
import Launchpad.Machine.Programs.Copies
import Launchpad.Machine.Programs.Dumping
import Launchpad.Machine.Programs.Editing
import Launchpad.Machine.Programs.Facts
import Launchpad.Machine.Programs.Files
import Launchpad.Machine.Programs.Finding
import Launchpad.Machine.Programs.Lines
import Launchpad.Machine.Programs.Listing
import Launchpad.Machine.Programs.Names
import Launchpad.Machine.Programs.Numbers
import Launchpad.Machine.Programs.Records
import Launchpad.Machine.Programs.Search
import Launchpad.Machine.Programs.Sorting
import Launchpad.Machine.Programs.Starters
import Launchpad.Machine.Programs.Sums
import Launchpad.Machine.Programs.Translation

/-!
The programs that are installed on a machine, by name. The shell itself is not among them.
-/

namespace Launchpad.Machine

open Programs

def installed : List (String × Program) := [
  ("[", test), ("arch", arch), ("awk", awk), ("base32", base32), ("base64", base64),
  ("basename", basename), ("cat", cat), ("chmod", chmod), ("cksum", cksum), ("cmp", cmp),
  ("comm", comm), ("cp", cp), ("cut", cut), ("date", date), ("dd", dd), ("diff", diff),
  ("dirname", dirname), ("echo", echo), ("egrep", egrep), ("env", env), ("expand", expand),
  ("expr", expr), ("factor", factor), ("false", Tool.exit 1), ("fgrep", fgrep), ("find", find),
  ("fold", fold), ("grep", grep), ("head", head), ("hostname", hostname), ("id", identity),
  ("install", install), ("join", Programs.join), ("link", link), ("ln", ln), ("logname", logname),
  ("ls", ls), ("mawk", awk), ("md5sum", md5sum), ("mkdir", mkdir), ("mktemp", mktemp), ("mv", mv),
  ("nice", nice), ("nl", nl), ("nohup", nohup), ("nproc", nproc), ("od", od), ("paste", paste),
  ("printenv", printenv), ("printf", printf), ("pwd", pwd), ("readlink", readlink),
  ("realpath", realpath), ("rev", rev), ("rm", rm), ("rmdir", rmdir), ("sed", sed), ("seq", seq),
  ("setsid", setsid), ("sha1sum", sha1sum), ("sha224sum", sha224sum), ("sha256sum", sha256sum),
  ("sha384sum", sha384sum), ("sha512sum", sha512sum), ("sleep", sleep), ("sort", sort),
  ("split", split), ("stat", stat), ("stdbuf", stdbuf), ("sum", sum), ("sync", sync),
  ("tac", tac), ("tail", tail), ("tar", tar), ("tee", tee), ("test", test), ("timeout", timeout),
  ("touch", touch), ("tr", tr), ("true", return ()), ("truncate", truncate), ("tsort", tsort),
  ("tty", tty), ("uname", uname), ("unexpand", unexpand), ("uniq", uniq), ("unlink", unlink),
  ("wc", wc), ("which", which), ("whoami", whoami), ("xargs", xargs), ("yes", yes)]

def builtIn : List (String × Program) := [
  ("[", shellTest), ("echo", shellEcho), ("false", Tool.exit 1), ("printf", shellPrintf),
  ("test", shellTest), ("true", return ())]

end Launchpad.Machine
