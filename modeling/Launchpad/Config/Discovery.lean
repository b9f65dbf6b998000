import Launchpad.Config.Overlay
import Launchpad.FileSystem.Lookup
import Launchpad.Text.Utf8
import Launchpad.Toml.Document
import Launchpad.World

/-!
Finding and loading a configuration. Of the places where it may be, the first that exists decides:
a file that cannot be used is an error and never a reason to look further. A relative suite root is
understood from the directory of the file that states it.
-/

namespace Launchpad.Config

/-- The file that goes before all others, next to the work at hand. -/
def localFile : Path := .ofText "jsgate.toml"

def userFile (settings : Path) : Path :=
  (settings.join (.ofText "jsgate")).join (.ofText "config.toml")

/-- Move a relative suite root to the directory of the file that states it. -/
def rebase (c : Config) (file : Path) : Config :=
  if c.suite.directory.isAbsolute then c
  else match file.parent? with
    | none => c
    | some parent => { c with suite.directory := parent.join c.suite.directory }

def readText (files : FileSystem) (file : Path) : Except ConfigFailure String :=
  match files.readFile file with
  | .error cause => .error (.unreadable file cause)
  | .ok bytes =>
    match Text.decode? bytes with
    | some text => .ok text
    | none => .error (.unreadable file .notText)

/-- The configuration that a file holds, in a given state of the files. -/
def loadFrom (files : FileSystem) (file : Path) : Except ConfigFailure Config := do
  let text ← readText files file
  let c ← match (Toml.parse? text).bind Config.ofTable? with
    | some c => .ok c
    | none => .error (.unparsable file)
  let c := c.rebase file
  c.validate
  .ok c

/-- The file that decides, if there is one: the explicit one, else the first that exists. -/
def candidate? (files : FileSystem) (explicit? : Option Path) (settings : Path) : Option Path :=
  match explicit? with
  | some file => some file
  | none =>
    if files.pathExists localFile then some localFile
    else if files.pathExists (userFile settings) then some (userFile settings)
    else none

/-- The configuration that applies in a given state of the files. -/
def discoverFrom (files : FileSystem) (explicit? : Option Path) (settings : Path) :
    Except ConfigFailure Config :=
  match candidate? files explicit? settings with
  | some file => loadFrom files file
  | none => .ok {}

def load (file : Path) : Action Config := do
  let c ← Action.ofExcept .config (loadFrom (← Action.files) file)
  Action.log .debug "Loaded config" [("path", .plain file.text)]
  return c

/-- Find and load the configuration that applies. -/
def discover (explicit? : Option Path) (settings : Path) : Action Config := do
  match candidate? (← Action.files) explicit? settings with
  | some file => load file
  | none =>
    Action.log .debug "No config file found, using defaults"
    return {}

end Launchpad.Config
