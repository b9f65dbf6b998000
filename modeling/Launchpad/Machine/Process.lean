import Launchpad.Machine.Signal
import Launchpad.Machine.Tool
import Launchpad.Script.Reading

/-!
A shell that runs a script: what it knows, what can interrupt it, and the small operations on its
variables and descriptors of which everything else is made.
-/

namespace Launchpad.Machine

open Script (Statement Word)

/-- A variable of a shell. One without a value can still be exported or be read only. -/
structure Variable where
  value? : Option Octets := none
  exported : Bool := false
  isReadOnly : Bool := false
  deriving DecidableEq, Repr, Inhabited

inductive Hidden where
  | binding (name : String) (old? : Option Variable)
  /-- The letters of the options that were switched on. -/
  | options (letters : List Char)

structure ShellProcess where
  /-- The name of the script; messages begin with it. -/
  name : Octets
  args : List Octets
  /-- The variables in the order in which they came to be. -/
  bindings : List (String × Variable) := []
  functions : List (String × Statement) := []
  aliases : List (String × Octets) := []
  /-- The texts that scripts give to their commands line by line. -/
  documents : Array Word := #[]
  /-- The letters of the options that are switched on. -/
  options : List Char := []
  /-- The status of the last command. -/
  status : Nat := 0
  /-- The status of the last script whose output was put into the current command. -/
  outputStatus : Nat := 0
  /-- The numbers of this process and of the processes above it. -/
  numbers : List Nat
  /-- The line that the script has come to. -/
  line : Nat := 1
  /-- The command of the shell that is running. -/
  command? : Option Octets := none
  /-- How many loops stand around the current command. -/
  loops : Nat := 0
  /-- How many functions are running. -/
  calls : Nat := 0
  /-- What is run when a signal comes; the number zero stands for the end of the shell. -/
  traps : List (Nat × Octets) := []
  descriptors : Descriptors
  /-- What the functions that are running have hidden. -/
  hidden : List Hidden := []
  /-- The path of the directory, links kept. -/
  directory : Octets
  /-- The permissions that new files do not get. -/
  umask : Nat := 0o022
  /-- How many letters of the current argument have been looked at for options. -/
  optionOffset : Nat := 0
  /-- The number of the process that was last started in the background. -/
  lastJob? : Option Nat := none
  /-- Where programs were found. -/
  tracked : List (Octets × Octets) := []
  /-- How many copies of the first shell stand above this one. -/
  depth : Nat := 0

inductive Frame where
  | statement (tested : Bool) (s : Statement)
  /-- A statement that is run if the status of the last one asks for it. -/
  | after (onSuccess : Bool) (s : Statement)
  /-- The first of two statements if the last one succeeded, otherwise the second. -/
  | choice (first second : Statement)
  | negation
  /-- A round of a loop is over. -/
  | loop (untilSuccess : Bool) (condition body : Statement)
  /-- The condition of a loop has been tried. -/
  | decision (untilSuccess : Bool) (condition body : Statement)
  | each (name : String) (values : List Octets) (body : Statement)

structure Job where
  number : Nat
  shell : ShellProcess
  here : Location
  /-- How far it has come. -/
  clock : Timestamp
  rest : List Frame
  /-- How it has ended. -/
  status? : Option Nat := none
  /-- Nobody waits for it any more. -/
  isOrphan : Bool := false

/-- Why a script does not go on with its next command. -/
inductive Interruption where
  | exiting (status : Nat)
  /-- A mistake that ends the shell unless it happens inside a command that stands it. -/
  | failing (status : Nat)
  | returning (status : Nat)
  /-- So many loops are left. -/
  | breaking (loops : Nat)
  /-- All but one of so many loops are left, and the last goes on with its next round. -/
  | continuing (loops : Nat)
  /-- A process gets a signal that ends it. -/
  | killed (process signal : Nat)
  /-- The time that was given is over. -/
  | expired
  /-- The script takes more steps than are allowed. -/
  | exhausted
  deriving DecidableEq, Repr, Inhabited

structure Running where
  session : Session
  shell : ShellProcess
  jobs : List Job := []

abbrev Step (α : Type) := ExceptT Interruption (StateM Running) α

def ShellProcess.label (s : ShellProcess) : Octets :=
  s.name ++ ": " ++ toString s.line ++ ": " ++
    (match s.command? with
    | some command => command ++ ": "
    | none => "")

namespace Step

/-- What a step comes to, interruptions included. -/
def outcome {α : Type} (a : Step α) : Step (Except Interruption α) :=
  ExceptT.mk do
    let result ← a.run
    pure (.ok result)

def shell : Step ShellProcess := do
  return (← get).shell

def alter (f : ShellProcess → ShellProcess) : Step Unit :=
  modify fun r => { r with shell := f r.shell }

def alterSession (f : Session → Session) : Step Unit :=
  modify fun r => { r with session := f r.session }

def files : Step FileSystem := do
  return (← get).session.files

def print (descriptor : Nat) (text : Octets) : Step Unit :=
  modify fun r => { r with
    session := r.session.writeTo r.shell.descriptors descriptor (Octets.array text) }

def complain (text : Octets) : Step Unit := do
  print 2 ((← shell).label ++ text ++ "\n")

def fail {α : Type} (text : Octets) (status : Nat := 2) : Step α := do
  complain text
  throw (.failing status)

def openBuffer : Step Nat := do
  let r ← get
  let (channel, session) := r.session.addChannel (.buffer ByteArray.empty)
  set { r with session := session }
  return channel

/-- Take a step with other descriptors, and go back to the old ones. -/
def withDescriptors {α : Type} (descriptors : Descriptors) (a : Step α) : Step α := do
  let before := (← shell).descriptors
  alter fun s => { s with descriptors := descriptors }
  let result ← outcome a
  alter fun s => { s with descriptors := before }
  ofExcept result

def newProcess : Step Nat := do
  let n := (← get).session.nextProcess
  alterSession fun s => { s with nextProcess := n + 1 }
  return n

end Step

namespace ShellProcess

def isOn (s : ShellProcess) (letter : Char) : Bool := s.options.contains letter

def binding? (s : ShellProcess) (name : String) : Option Variable := s.bindings.lookup name

def value? (s : ShellProcess) (name : String) : Option Octets :=
  (s.bindings.lookup name).bind (·.value?)

def bind (s : ShellProcess) (name : String) (v : Variable) : ShellProcess :=
  if s.bindings.any (·.1 = name) then
    { s with bindings := s.bindings.map fun (own, old) => (own, if own = name then v else old) }
  else { s with bindings := s.bindings ++ [(name, v)] }

/-- Give a variable a value; it stays exported if it was. -/
def assign (s : ShellProcess) (name : String) (value : Octets) : ShellProcess :=
  let old := (s.bindings.lookup name).getD {}
  let s := if name = "OPTIND" then { s with optionOffset := 0 } else s
  s.bind name { old with value? := some value, exported := old.exported || s.isOn 'a' }

/-- Let programs see a variable. -/
def publish (s : ShellProcess) (name : String) : ShellProcess :=
  s.bind name { (s.bindings.lookup name).getD {} with exported := true }

def forget (s : ShellProcess) (name : String) : ShellProcess :=
  { s with bindings := s.bindings.filter (·.1 ≠ name) }

def shelves : Nat := 39

/-- The shelf of a variable: its first character counts sixteen times more than the others. -/
def shelf (name : String) : Nat :=
  let codes := name.toList.map Char.toNat
  (codes.headD 0 * 16 + codes.foldl (· + ·) 0) % shelves

/-- What the programs see that this shell starts, shelf by shelf. -/
def environment (s : ShellProcess) : Environment :=
  let published := s.bindings.filterMap fun (name, v) =>
    match v with
    | { value? := some value, exported := true, .. } => some (name, value)
    | _ => none
  published.mergeSort fun a b => shelf a.1 ≤ shelf b.1

def separators (s : ShellProcess) : List Char :=
  match s.value? "IFS" with
  | some text => text.toList
  | none => [' ', '\t', '\n']

def optionLetters : List Char :=
  ['p', 'u', 'b', 'a', 'C', 'E', 'V', 'v', 'x', 's', 'n', 'm', 'i', 'I', 'f', 'e']

/-- The values of a parameter: none when it is not set, several for the list of arguments. -/
def parameter? (s : ShellProcess) (name : String) : Option (List Octets) :=
  match name with
  | "@" => if s.args = [] then none else some s.args
  | "*" => if s.args = [] then none else some s.args
  | "#" => some [toString s.args.length]
  | "?" => some [toString s.status]
  | "$" => s.numbers.head?.map fun n => [toString n]
  | "-" => some [String.ofList (optionLetters.filter s.isOn)]
  | "!" => s.lastJob?.map fun n => [toString n]
  | "0" => some [s.name]
  | name =>
    match name.toNat? with
    | some 0 => some [s.name]
    | some k => s.args[k - 1]?.map fun arg => [arg]
    | none => (s.value? name).map fun value => [value]

end ShellProcess

namespace Step

/-- Give a variable a value, unless it is read only. -/
def assign (name : String) (value : Octets) : Step Unit := do
  match (← shell).binding? name with
  | some { isReadOnly := true, .. } => fail (name ++ ": is read only")
  | _ => alter (·.assign name value)

end Step

def splitAssignment (text : Octets) : Octets × Option Octets :=
  let cs := text.toList
  match cs.dropWhile (· ≠ '=') with
  | _ :: value => (String.ofList (cs.takeWhile (· ≠ '=')), some (String.ofList value))
  | [] => (text, none)

/-- The characters of `singleQuoted`. `fuel` bounds the number of parts between quotes. -/
def singleQuotedFuel : Nat → List Char → List Char
  | 0, _ => []
  | fuel + 1, cs =>
    let plain := cs.takeWhile (· ≠ '\'')
    let behind := cs.dropWhile (· ≠ '\'')
    let marks := behind.takeWhile (· = '\'')
    let rest := behind.dropWhile (· = '\'')
    '\'' :: plain ++ '\'' ::
      (if marks = [] then []
      else '"' :: marks ++ '"' :: (if rest = [] then [] else singleQuotedFuel fuel rest))

/-- A text between single quotes, for a shell to read. Single quotes in it stand between double
quotes. -/
def singleQuoted (text : Octets) : Octets :=
  String.ofList (singleQuotedFuel (text.length + 1) text.toList)

end Launchpad.Machine
