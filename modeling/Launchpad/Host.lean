import Launchpad.Arguments.Sizing
import Launchpad.Config.Basic
import Launchpad.Tar.Unpack
import Launchpad.World

/-!
The host on which operations run: the configuration in force, the architecture, how children are
started and how archives are unpacked. A child is awaited with an expectation of its status.
-/

namespace Launchpad

/-- A way to unpack the bytes of an archive into a directory. It may go part of the way and fail. -/
abbrev Unpacker := ByteArray → Path → FileSystem → Except IoError Unit × FileSystem

def Unpacker.tar : Unpacker :=
  fun bytes destination files => (Tar.read bytes).unpack destination files

structure Host where
  config : Config
  executor : Executor
  arch : Arch
  unpacker : Unpacker := .tar

inductive Expectation where
  /-- It is zero; any other status ends the operation. -/
  | success
  /-- It may be anything and is handed back. -/
  | anyStatus
  deriving DecidableEq, Repr, Inhabited

namespace Host

/-- The launch of the virtual machine with an argument list. -/
def java (host : Host) (args : List String) (cwd? : Option Path) : Command :=
  { program := host.config.suite.java, args := args, cwd? := cwd? }

/-- Start a command, wait for its end, and hold its status against what is expected. -/
def await (host : Host) (command : Command) (expectation : Expectation) : Action Int := do
  Action.log .info ("Running " ++ command.display) [("cwd", .directory? command.cwd?)]
  let (status, _) ← host.executor.call .run command
  if status ≠ 0 then
    match expectation with
    | .success => throw (.child command status)
    | .anyStatus =>
      Action.log .debug (command.program ++ " exited non-zero") [("status", .number status)]
  return status

end Host

end Launchpad
