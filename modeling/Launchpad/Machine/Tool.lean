import Launchpad.FileSystem.Listing
import Launchpad.Machine.Session

/-!
Programs as steps on a session. A program knows what it was started with, reads and writes through
its descriptors, may start other programs, and ends with a status. It may fail at something and go
on with the rest; the status then tells of it in the end.
-/

namespace Launchpad.Machine

abbrev Environment := List (Octets × Octets)

structure Invocation where
  /-- The name under which it was started; its messages begin with it. -/
  name : Octets
  args : List Octets
  environment : Environment
  descriptors : Descriptors
  /-- The permissions that new files do not get. -/
  umask : Nat
  /-- The numbers of this process and of the processes above it. -/
  numbers : List Nat
  /-- Start another program with its arguments and run it to its end. -/
  start : Session → Descriptors → Environment → List Octets → Except Errno Ending × Session

structure Working where
  session : Session
  /-- The status with which it will end. -/
  status : Nat := 0
  /-- Why something that was printed got lost. -/
  lost? : Option Errno := none
  /-- Whether what is printed is held back until the end. -/
  holds : Bool := false
  /-- What is held back, last things first. -/
  held : List Octets := []

abbrev Tool := ReaderT Invocation (ExceptT Ending (StateM Working))

abbrev Program := Tool Unit

namespace Tool

def invocation : Tool Invocation := read

def args : Tool (List Octets) := return (← read).args

def files : Tool FileSystem := return (← get).session.files

def alterSession (f : Session → Session) : Tool Unit :=
  modify fun w => { w with session := f w.session }

def exit {α : Type} (status : Nat) : Tool α := throw (.exited status)

def mark (status : Nat) : Tool Unit :=
  modify fun w => { w with status := status }

/-- Remember a status for the end unless a greater one is there. -/
def markAtLeast (status : Nat) : Tool Unit :=
  modify fun w => { w with status := max w.status status }

def writeBytes (descriptor : Nat) (bytes : ByteArray) : Tool Unit := do
  if bytes.isEmpty then return ()
  let i ← read
  let channel? := i.descriptors.lookup descriptor
  let session := (← get).session
  match (match channel? with
    | some channel => session.refusal? channel
    | none => some .badDescriptor) with
  | some number => modify fun w => { w with lost? := if descriptor = 1 then some number else
      w.lost? }
  | none => alterSession (·.writeTo i.descriptors descriptor bytes)

def release : Tool Unit := do
  let held := (← get).held
  modify fun w => { w with held := [] }
  writeBytes 1 (Octets.array (String.join held.reverse))

def hold : Tool Unit :=
  modify fun w => { w with holds := true }

def print (text : Octets) : Tool Unit := do
  if (← get).holds then modify fun w => { w with held := text :: w.held }
  else writeBytes 1 (Octets.array text)

def printError (line : Octets) : Tool Unit :=
  writeBytes 2 (Octets.array (line ++ "\n"))

/-- Write a message, which begins with the name of the program. -/
def warn (text : Octets) : Tool Unit := do
  printError ((← read).name ++ ": " ++ text)

/-- Write a message and remember a status for the end. -/
def complain (status : Nat) (text : Octets) : Tool Unit := do
  warn text
  markAtLeast status

def fail {α : Type} (status : Nat) (text : Octets) : Tool α := do
  warn text
  exit status

/-- End with a status after the line that points to the program's help. -/
def hint {α : Type} (status : Nat) : Tool α := do
  printError ("Try '" ++ (← read).name ++ " --help' for more information.")
  exit status

/-- End with a status after a message and the line that points to the program's help. -/
def failWithHint {α : Type} (status : Nat) (text : Octets) : Tool α := do
  warn text
  hint status

def openFile (path : Octets) (how : Opening) (mode : Nat := 0o666) :
    Tool (Except Errno Nat) := do
  let i ← read
  let w ← get
  match w.session.openFile i.descriptors (Octets.path path) how (mode &&& (0o777 ^^^ i.umask)) with
  | .ok (channel, session) =>
    set { w with session := session }
    return .ok channel
  | .error number => return .error number

def drain (channel : Nat) : Tool (Except Errno ByteArray) := do
  let session := (← get).session
  match session.readable channel with
  | .ok bytes =>
    alterSession (·.leave channel ByteArray.empty)
    return .ok bytes
  | .error number => return .error number

def inputChannel : Tool (Except Errno Nat) := do
  match (← read).descriptors.lookup 0 with
  | some channel => return .ok channel
  | none => return .error .badDescriptor

def readInput : Tool (Except Errno ByteArray) := do
  match ← inputChannel with
  | .ok channel => drain channel
  | .error number => return .error number

/-- Open a file for reading, the standard input for a dash. -/
def openInput (path : Octets) : Tool (Except Errno Nat) :=
  if path = "-" then inputChannel else openFile path .reading

def readInputFile (path : Octets) : Tool (Except Errno ByteArray) := do
  match ← openInput path with
  | .ok channel => drain channel
  | .error number => return .error number

def writeFile (path : Octets) (bytes : ByteArray) (mode : Nat := 0o666) :
    Tool (Except Errno Unit) := do
  match ← openFile path .writing mode with
  | .ok channel =>
    alterSession (·.write channel bytes)
    return .ok ()
  | .error number => return .error number

/-- Change the files, or learn why that cannot be. -/
def change (f : FileSystem → Except IoError FileSystem) : Tool (Except Errno Unit) := do
  match f (← files) with
  | .ok files =>
    alterSession fun s => { s with files := files }
    return .ok ()
  | .error failure => return .error failure.number

def pass (nanoseconds : Nat) : Tool Unit := do
  let w ← get
  let (isLate, session) := w.session.pass nanoseconds
  set { w with session := session }
  if isLate then throw .expired

def setting? (name : Octets) : Tool (Option Octets) :=
  return (← read).environment.lookup name

/-- Start another program with some environment and descriptors, and wait for its end. -/
def start (descriptors : Descriptors) (environment : Environment) (argv : List Octets) :
    Tool (Except Errno Ending) := do
  let i ← read
  let w ← get
  let (result, session) := i.start w.session descriptors environment argv
  set { w with session := session }
  match result with
  | .ok (.killed process signal) =>
    if i.numbers.contains process then throw (.killed process signal)
    else return .ok (.killed process signal)
  | .ok .exhausted => throw .exhausted
  | result => return result

/-- Run a program to its end, what it held back included. The answer tells how it ended and why
something that it printed got lost. -/
def execute (i : Invocation) (w : Working) (t : Tool Unit) :
    Ending × Option Errno × Session :=
  let (result, w) := ((t i).run).run w
  let (_, w) := ((release i).run).run w
  match result with
  | .ok () => (.exited (w.status % 256), w.lost?, w.session)
  | .error (.exited status) => (.exited (status % 256), w.lost?, w.session)
  | .error other => (other, none, w.session)

/-- Run a program to its end. What it could not print is an error. -/
def run (i : Invocation) (session : Session) (t : Tool Unit) : Ending × Session :=
  match execute i { session := session } t with
  | (.exited status, some number, session) =>
    let (_, _, session) := execute i { session := session } (warn ("write error: " ++ number.text))
    (.exited (max status 1), session)
  | (ending, _, session) => (ending, session)

end Tool

/-- The lines of a text without their ends; whether the last of them lacks its end is told apart. -/
def linesOf (text : Octets) : List Octets × Bool :=
  let (current, lines) := text.toList.foldl (fun (current, lines) c =>
    if c = '\n' then ([], String.ofList current.reverse :: lines)
    else (c :: current, lines)) (([] : List Char), ([] : List Octets))
  if current = [] then (lines.reverse, false)
  else ((String.ofList current.reverse :: lines).reverse, true)

def unlines (lines : List Octets) : Octets :=
  String.join (lines.map (· ++ "\n"))

/-- Lines with their ends, but for the last if it lacks its end. -/
def unlinesOpen (lines : List Octets) (isOpen : Bool) : Octets :=
  let all := unlines lines
  if isOpen then (all.dropEnd 1).toString else all

/-- The number that digits spell, if they are digits and there is one. -/
def natural? (cs : List Char) : Option Nat :=
  if cs ≠ [] && cs.all Char.isDigit then
    some (cs.foldl (fun n c => n * 10 + (c.toNat - '0'.toNat)) 0)
  else none

/-- A text made at least so wide by blanks in front of it. -/
def padLeft (width : Nat) (text : Octets) (filling : Char := ' ') : Octets :=
  String.ofList (List.replicate (width - text.length) filling) ++ text

/-- A text made at least so wide by blanks behind it. -/
def padRight (width : Nat) (text : Octets) : Octets :=
  text ++ String.ofList (List.replicate (width - text.length) ' ')

end Launchpad.Machine
