import Launchpad.Arguments.Layout
import Launchpad.Arguments.Partition
import Launchpad.Host

/-!
Shells: launches in which a user works with the engine. What the user writes for the virtual machine
goes before the main class, all else behind it.
-/

namespace Launchpad

open Arguments

inductive Shell where
  /-- The one of the engine, with the configured jars on its classpath. -/
  | js
  /-- The older one. The virtual machine brings it along, so it needs no jars. -/
  | legacy
  deriving DecidableEq, Repr, Inhabited

namespace Shell

/-- The property that every launch of the engine's shell sets. -/
def bindProgramResult : String := "-Dtruffle.js.BindProgramResult=false"

/-- The argument list of a shell: flags of the virtual machine, the main class, and what is left
for the program. -/
def argumentList (arch : Arch) (tokens : List String) (mainClass : String)
    (defaultClasspath : List String) (withSizes : Bool) : Except DanglingFlag (List String) := do
  let parts ← partition tokens defaultClasspath false
  let vmArgs :=
    if withSizes then appendSizing parts.vmArgs (Sizing.interactive arch) else parts.vmArgs
  return layout [.vmArgs vmArgs, .mainClass mainClass, .programArgs parts.remainder]

def command (shell : Shell) (host : Host) (tokens : List String) (withSizes : Bool) :
    Except DanglingFlag Command := do
  let launcher := host.config.launcher
  let list ← match shell with
    | .js =>
      argumentList host.arch (tokens ++ [bindProgramResult]) launcher.mainClass
        host.config.launcherClasspath withSizes
    | .legacy => argumentList host.arch tokens launcher.legacyMainClass [] withSizes
  return host.java list none

/-- Start a shell and wait for its end. -/
def run (shell : Shell) (host : Host) (tokens : List String) (expectation : Expectation) :
    Action Int := do
  let launch ← Action.ofExcept .argument (shell.command host tokens true)
  host.await launch expectation

end Shell

end Launchpad
