import Launchpad.FileSystem.Change

/-!
A bare machine: the directories that every machine has, the programs that are installed on it, and
an empty directory to work in. Only that directory and the one for temporary files may be changed.
-/

namespace Launchpad.Machine

def programs : List String :=
  ["[", "arch", "awk", "base32", "base64", "basename", "bash", "cat", "chmod", "cksum", "cmp",
    "comm", "cp", "cut", "dash", "date", "dd", "diff", "dirname", "echo", "egrep", "env", "expand",
    "expr", "factor", "false", "fgrep", "find", "fold", "grep", "head", "hostname", "id",
    "install", "join", "link", "ln", "logname", "ls", "mawk", "md5sum", "mkdir", "mktemp", "mv",
    "nice", "nl", "nohup", "nproc", "od", "paste", "printenv", "printf", "pwd", "readlink",
    "realpath", "rev", "rm", "rmdir", "sed", "seq", "setsid", "sh", "sha1sum", "sha224sum",
    "sha256sum", "sha384sum", "sha512sum", "sleep", "sort", "split", "stat", "stdbuf", "sum",
    "sync", "tac", "tail", "tar", "tee", "test", "timeout", "touch", "tr", "true", "truncate",
    "tsort", "tty", "uname", "unexpand", "uniq", "unlink", "wc", "which", "whoami", "xargs", "yes"]

/-- The first bytes of the file of an installed program; its name follows them. -/
def programMark : String := "\x7fELF"

def programName? (content : ByteArray) : Option String :=
  let mark := programMark.toUTF8
  if content.extract 0 mark.size = mark then
    String.fromUTF8? (content.extract mark.size content.size)
  else none

def systemMode : Nat := 0o555

def systemDirectories : List (List String) :=
  [[], ["usr"], ["usr", "bin"], ["usr", "sbin"], ["usr", "lib"], ["usr", "share"], ["usr", "local"],
    ["usr", "local", "bin"], ["dev"], ["dev", "fd"], ["etc"], ["opt"], ["home"], ["var"], ["root"],
    ["proc"], ["sys"], ["run"], ["mnt"]]

/-- The links of the system. -/
def systemLinks : List (List String × String) :=
  [(["bin"], "usr/bin"), (["sbin"], "usr/sbin"), (["lib"], "usr/lib"),
    (["dev", "stdin"], "/dev/fd/0"), (["dev", "stdout"], "/dev/fd/1"),
    (["dev", "stderr"], "/dev/fd/2")]

def systemDevices : List (List String × String) :=
  [(["dev", "null"], "null"), (["dev", "zero"], "zero"), (["dev", "full"], "full"),
    (["dev", "tty"], "tty")] ++
  (List.range 10).map fun n => (["dev", "fd", toString n], "fd/" ++ toString n)

def systemNodes : List (Location × Node × Nat) :=
  systemDirectories.map (fun names => (.ofTexts names, .directory, systemMode)) ++
  systemLinks.map (fun (names, target) => (.ofTexts names, .link (.ofText target), 0o777)) ++
  systemDevices.map (fun (names, device) => (.ofTexts names, .device device, 0o666)) ++
  [(.ofTexts ["tmp"], .directory, 0o777)]

def programNodes : List (Location × Node × Nat) :=
  programs.map fun name =>
    (.ofTexts ["usr", "bin", name], .file (programMark ++ name).toUTF8, systemMode)

/-- The directories from the root down to a location, the root left out. -/
def directoriesTo (l : Location) : List (Location × Node × Nat) :=
  (List.range l.length).map fun n => (l.take (n + 1), .directory, directoryMode)

/-- A bare machine at some time, working in an empty directory. -/
def bare (here : Location) (now : Timestamp) : FileSystem :=
  let empty : FileSystem := { entries := [], nextSerial := 0, now := now, here := here }
  (systemNodes ++ programNodes ++ directoriesTo here).foldl (fun fs (l, node, mode) =>
    if (fs.entry? l).isSome then fs else fs.add l node mode) empty

end Launchpad.Machine
