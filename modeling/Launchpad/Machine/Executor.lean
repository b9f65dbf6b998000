import Launchpad.Machine.Shell
import Launchpad.Text.Utf8

/-!
The executor of a machine: it opens the files that the output goes into, finds the program of a
command, runs it to its end, and answers how it ended. A child that a signal ended has the status
128 plus the number of the signal.
-/

namespace Launchpad.Machine

def openTarget (session : Session) (stream : Stream) : OutputTarget →
    Except Failure Nat × Session
  | .inherit =>
    let (channel, session) := session.addChannel (.stream stream)
    (.ok channel, session)
  | .null =>
    let (channel, session) := session.addChannel .nothing
    (.ok channel, session)
  | .file p =>
    match session.openFile [] p .writing fileMode with
    | .ok (channel, session) => (.ok channel, session)
    | .error number => (.error (.io .creatingOutput p (.os number)), session)

def enter (files : FileSystem) : Option Path → Except IoError Location
  | none => .ok files.here
  | some p => do
    let (l, e) ← files.status p
    if !e.isDirectory then .error (.os .notDirectory)
    else if !e.executable then .error (.os .accessDenied)
    else .ok l

/-- Whether a command holds the character NUL, which no program can be given. -/
def holdsNul (command : Command) : Bool :=
  (command.program :: command.args ++ (command.cwd?.map (·.text)).toList).any fun text =>
    text.toList.contains '\x00'

/-- The status of a child, as whoever waits for it is told: eight bits of what it exited with, or 128
and the seven bits for the signal that ended it. -/
def Ending.status : Ending → Nat
  | .exited status => status % 256
  | .killed _ signal => 128 + signal % 128
  | .expired => 128 + 9
  | .exhausted => 128 + 9

/-- Start a child and run it to its end; the answer is its status. -/
def launch (environment : Environment) (session : Session) (descriptors : Descriptors)
    (command : Command) : Except IoError Int × Session :=
  if holdsNul command then (.error .nulInArgument, session)
  else match enter session.files command.cwd? with
    | .error e => (.error e, session)
    | .ok l =>
      let here := session.files.here
      let moved := { session with files.here := l }
      let searched := (environment.lookup "PATH").getD usualSearch
      let args := command.args.map Octets.ofText
      match locateProgram moved.files (Octets.ofText command.program) searched args with
      | .error number => (.error (.os number), session)
      | .ok (_, .text _, _) => (.error (.os .badFormat), session)
      | .ok (_, target@(.program _ _), argv) =>
        let (ending, after) := Shell.launch moved descriptors environment target argv
        (.ok ending.status, { after with files.here := here })

def executor (environment : List (String × String)) : Executor where
  respond mode command w :=
    let environment := environment.map fun (name, value) =>
      (Octets.ofText name, Octets.ofText value)
    let session : Session := { files := w.files }
    let (input, session) := session.addChannel .nothing
    match openTarget session .stdout command.stdout with
    | (.error failure, session) => { outcome := .error failure, files := session.files }
    | (.ok out, session) =>
      match openTarget session .stderr command.stderr with
      | (.error failure, session) => { outcome := .error failure, files := session.files }
      | (.ok err, session) =>
        let (caught, session) := session.addChannel (.buffer ByteArray.empty)
        let out := match mode with
          | .run => out
          | .capture => caught
        let (result, session) :=
          launch environment session [(0, input), (1, out), (2, err)] command
        { outcome := match result with
            | .ok status => .ok (status, Text.decodeLenient (session.available caught))
            | .error e => .error (.unlaunchable command.program e)
          files := session.files
          output := session.output.toList }

end Launchpad.Machine
