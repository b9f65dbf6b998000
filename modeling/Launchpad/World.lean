import Launchpad.FileSystem.Basic
import Launchpad.Failure
import Launchpad.Log

/-!
What an operation acts on. A world is a file system together with a journal of everything that was
done and can be seen from outside: log entries, commands handed to the executor, and text on the
streams of the program. An action works on a world and may fail; what it did before it failed stays
done. Children are started by an executor, which may answer a command in any way and change files,
but cannot touch the journal.
-/

namespace Launchpad

/-- The two ways to start a child: let it run, or catch what it prints. -/
inductive CallMode where
  | run
  | capture
  deriving DecidableEq, Repr, Inhabited

inductive Stream where
  | stdout
  | stderr
  deriving DecidableEq, Repr, Inhabited

inductive Event where
  | logged (entry : LogEntry)
  | called (mode : CallMode) (command : Command)
  /-- The child that was called last ended with a status. -/
  | ended (status : Int)
  | wrote (stream : Stream) (bytes : ByteArray)
  deriving DecidableEq, Inhabited

/-- A file system, and the journal in order of time. -/
structure World where
  files : FileSystem
  journal : List Event := []
  deriving Inhabited

def World.record (w : World) (e : Event) : World :=
  { w with journal := w.journal ++ [e] }

abbrev Action (α : Type) := ExceptT Failure (StateM World) α

namespace Action

def perform {α : Type} (a : Action α) (w : World) : Except Failure α × World :=
  a.run.run w

def log (level : Level) (message : String) (fields : List (String × FieldValue) := []) :
    Action Unit :=
  modify (·.record (.logged ⟨level, message, fields⟩))

def files : Action FileSystem := do
  return (← get).files

def print (stream : Stream) (text : String) : Action Unit :=
  modify (·.record (.wrote stream text.toUTF8))

/-- Change the file system; the change may go part of the way and then fail. -/
def change (f : FileSystem → Except IoError Unit × FileSystem) (asFailure : IoError → Failure) :
    Action Unit := do
  let w ← get
  let (result, files) := f w.files
  set { w with files := files }
  match result with
  | .ok () => return ()
  | .error e => throw (asFailure e)

/-- Turn an answer into an action, an error into a failure. -/
def ofExcept {ε α : Type} (asFailure : ε → Failure) : Except ε α → Action α
  | .ok a => pure a
  | .error e => throw (asFailure e)

end Action

/-- What an executor makes of a command: the status and the output that was caught, or the failure;
the files as they are afterwards; and what reached the streams of the program. -/
structure Response where
  outcome : Except Failure (Int × String)
  files : FileSystem
  output : List (Stream × ByteArray) := []

/-- Starts children. What it answers may depend on everything that happened before. -/
structure Executor where
  respond : CallMode → Command → World → Response

def Executor.call (executor : Executor) (mode : CallMode) (command : Command) :
    Action (Int × String) := do
  let w ← get
  let response := executor.respond mode command w
  let written := response.output.map fun (stream, bytes) => Event.wrote stream bytes
  let ended := match response.outcome with
    | .ok (status, _) => [Event.ended status]
    | .error _ => []
  set { w with
    files := response.files
    journal := w.journal ++ Event.called mode command :: written ++ ended }
  Action.ofExcept id response.outcome

end Launchpad
