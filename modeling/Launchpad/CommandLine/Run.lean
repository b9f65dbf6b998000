import Launchpad.CommandLine.Request
import Launchpad.Component
import Launchpad.Config.Discovery
import Launchpad.Gate.Report
import Launchpad.Launch.Deployment
import Launchpad.Launch.SmokeTests

/-!
Carrying out what the command line asks for. The operation fills the journal of its world; what is
shown of it, and the status of the program, are read off at the end.
-/

namespace Launchpad.CommandLine

def versionText : String := "jsgate 0.1.0"

structure Surroundings where
  executor : Executor
  arch : Arch
  /-- The directory of the user's settings. -/
  settings : Path
  /-- The log filter that the user asks for. -/
  filter? : Option String

def column (width : Nat) (name : String) : String :=
  name ++ String.ofList (List.replicate (width - name.length) ' ')

/-- The line of the gate's report for a task that was run. -/
def taskLine (name : String) (elapsed : Duration) : String :=
  column 32 name ++ " " ++ elapsed.renderHundredths ++ "\n"

/-- Carry out an operation; the answer is the status of the program. -/
def Operation.run (host : Host) : Operation → Action Int
  | .shell which args => which.run host args .success
  | .suite which args => which.run host args .success
  | .unitTests args => UnitTests.run host args .success
  | .deploy args => return (← Deployment.run host args).status
  | .smokeTests binary => SmokeTests.run host binary
  | .gate tags rehearsal => do
    let report ← Gate.run host ⟨tags⟩ rehearsal Gate.Task.all
    for (name, elapsed) in report.executed do
      Action.print .stdout (taskLine name elapsed)
    return 0
  | .component => do
    Action.print .stdout (Component.javaScript.text ++ "\n")
    return 0

/-- The status of the program after a failure: that of the child whose status was the failure. -/
def failureStatus : Failure → Int
  | .child _ status => if status ≠ 0 then status else 1
  | _ => 1

/-- The line for a failure: what went wrong, and the causes behind it. -/
def failureLine (chain : List String) : String :=
  "Error: " ++ ": ".intercalate chain ++ "\n"

/-- What was being done when a configuration could not be had. -/
def loadingText : String := "failed to load config"

def giveUp (chain : List String) (status : Int) (w : World) : Int × World :=
  (status, w.record (.wrote .stderr (failureLine chain).toUTF8))

/-- Carry out a request in a world: the status, and the world afterwards. The component is described
without a configuration; every other operation needs one. -/
def Request.run (request : Request) (s : Surroundings) (w : World) : Int × World :=
  let operate (config : Config) (w : World) : Int × World :=
    let host : Host := { config := config, executor := s.executor, arch := s.arch }
    match (request.operation.run host).perform w with
    | (.ok status, w) => (status, w)
    | (.error failure, w) => giveUp failure.chain (failureStatus failure) w
  match request.operation with
  | .component => operate {} w
  | _ =>
    match (Config.discover request.config? s.settings).perform w with
    | (.ok config, w) => operate config w
    | (.error failure, w) => giveUp (loadingText :: failure.chain) (failureStatus failure) w

/-- What an event puts on a stream. Entries of the log that the filter shows go to the stream for
errors, a line each. -/
def Event.shown (filter : LogFilter) (stream : Stream) : Event → ByteArray
  | .logged entry =>
    if stream = .stderr && filter.shows entry then (entry.line ++ "\n").toUTF8 else ByteArray.empty
  | .wrote target bytes => if target = stream then bytes else ByteArray.empty
  | _ => ByteArray.empty

def transcript (filter : LogFilter) (stream : Stream) (w : World) : ByteArray :=
  w.journal.foldl (fun bytes event => bytes ++ Event.shown filter stream event) ByteArray.empty

/-- A finished run: the status as other programs see it, and what stands on the streams. -/
structure Outcome where
  status : Nat
  stdout : ByteArray
  stderr : ByteArray

/-- Carry out a request on some files. Only the lowest eight bits of the status leave the
program. -/
def Request.outcome (request : Request) (s : Surroundings) (files : FileSystem) : Outcome :=
  let (status, w) := request.run s { files := files }
  let filter := LogFilter.choose s.filter? request.verbose
  { status := (status % 256).toNat
    stdout := transcript filter .stdout w
    stderr := transcript filter .stderr w }

end Launchpad.CommandLine
