import Launchpad.CommandLine.Run
import Launchpad.Machine.Executor

/-!
The command line. The files that can hold a configuration are copied to a bare machine, the request
is carried out there, and what its journal shows is printed.
-/

namespace Launchpad.Main

/-- Where the machine's programs work. -/
def workDirectory : Location := .ofTexts ["home", "work"]

/-- The directory of the user's settings: the one that is named for it, when it is absolute, else
the usual one in the user's home. -/
def settingsDirectory (named? home? : Option String) : Path :=
  match (named?.map Path.ofText).filter Path.isAbsolute, home? with
  | some named, _ => named
  | none, some home => (Path.ofText home).join (.ofText ".config")
  | none, none => .ofText "."

/-- The configuration files that a request may look at. -/
def candidates (request : CommandLine.Request) (settings : Path) : List Path :=
  request.config?.toList ++ [Config.localFile, Config.userFile settings]

/-- Put a file on the machine, with the directories that lead to it. -/
def place (files : FileSystem) (p : Path) (content : ByteArray) : FileSystem :=
  let files := match p.parent? with
    | some parent => (files.makeDirectories parent).2
    | none => files
  match files.createNew p content with
  | .ok (_, files) => files
  | .error _ => files

/-- The machine with those configuration files that can be read. -/
def populate (paths : List Path) : IO FileSystem := do
  let mut files := Machine.bare workDirectory (.ofParts 0 0)
  for p in paths do
    try
      files := place files p (← IO.FS.readBinFile p.text)
    catch _ => pure ()
  return files

/-- Carry out a request, print what it shows, and answer the status. -/
def carryOut (request : CommandLine.Request) : IO UInt32 := do
  let settings := settingsDirectory (← IO.getEnv "XDG_CONFIG_HOME") (← IO.getEnv "HOME")
  let surroundings : CommandLine.Surroundings :=
    { executor := Machine.executor [("PATH", "/usr/bin:/bin")]
      arch := .standard
      settings := settings
      filter? := ← IO.getEnv "RUST_LOG" }
  let outcome := request.outcome surroundings (← populate (candidates request settings))
  (← IO.getStdout).write outcome.stdout
  (← IO.getStderr).write outcome.stderr
  return outcome.status.toUInt32

end Launchpad.Main

/-- Read the arguments and carry out what they ask for. -/
def main (args : List String) : IO UInt32 :=
  match Launchpad.CommandLine.read args with
  | .ok request => Launchpad.Main.carryOut request
  | .error .version => do
    IO.println Launchpad.CommandLine.versionText
    return 0
  | .error (.help asked) => do
    IO.println Launchpad.CommandLine.helpText
    return if asked then 0 else 2
  | .error .usage => do
    IO.eprintln Launchpad.CommandLine.usageText
    return 2
