import Launchpad.FileSystem.Change
import Launchpad.Machine.Octets
import Launchpad.World

/-!
What running programs share: the files of the machine, and the channels that their descriptors lead
to. Two descriptors of one channel share its offset, so what is written through both stands one
behind the other. A channel that is open on a file leads to the file's entry and not to its name.
-/

namespace Launchpad.Machine

inductive Channel where
  /-- A stream of the program that started the first child; nothing can be read from it. -/
  | stream (s : Stream)
  /-- Nothing can be read, and what is written vanishes. -/
  | nothing
  /-- There are always more zeros to read, and what is written vanishes. -/
  | zeros
  /-- There are always more zeros to read, and nothing can be written. -/
  | full
  /-- A file; with `append` every write goes behind its end. -/
  | file (serial offset : Nat) (append reads writes : Bool)
  /-- A directory, which nothing can be read from. -/
  | directory
  /-- Bytes on their way from a writer to a reader. -/
  | buffer (bytes : ByteArray)
  deriving Inhabited

/-- The files, the channels, and what has reached the streams of the program. -/
structure Session where
  files : FileSystem
  channels : Array Channel := #[]
  output : Array (Stream × ByteArray) := #[]
  /-- The number that the next process gets. -/
  nextProcess : Nat := 4242
  /-- When what runs now will be ended. -/
  deadline? : Option Timestamp := none
  /-- The signals that processes have made provisions for, by number of the process: nothing is to
  happen for those with the empty text. -/
  provisions : List (Nat × List (Nat × Octets)) := []
  /-- Signals that wait for a process to look at them. -/
  waiting : List (Nat × Nat) := []
  deriving Inhabited

/-- Which channel each descriptor leads to; the first entry for a descriptor counts. -/
abbrev Descriptors := List (Nat × Nat)

inductive Ending where
  | exited (status : Nat)
  /-- A process, this one or one above it, got a signal that ends it. -/
  | killed (process signal : Nat)
  /-- The time that was given is over. -/
  | expired
  /-- It took more steps than are allowed. -/
  | exhausted
  deriving DecidableEq, Repr, Inhabited

structure Opening where
  reads : Bool := false
  writes : Bool := false
  /-- What is missing is made. -/
  creates : Bool := false
  /-- What is there is emptied. -/
  empties : Bool := false
  append : Bool := false
  /-- Nothing may be there. -/
  fresh : Bool := false

namespace Opening

def reading : Opening := { reads := true }

/-- Write a file, emptied first. -/
def writing : Opening := { writes := true, creates := true, empties := true }

/-- Write behind the end of a file. -/
def appending : Opening := { writes := true, creates := true, append := true }

def both : Opening := { reads := true, writes := true, creates := true }

end Opening

namespace Session

def setChannel (s : Session) (channel : Nat) (c : Channel) : Session :=
  { s with channels := s.channels.setIfInBounds channel c }

def addChannel (s : Session) (c : Channel) : Nat × Session :=
  (s.channels.size, { s with channels := s.channels.push c })

def entryOf? (s : Session) (serial : Nat) : Option Entry :=
  (s.files.entries.find? fun (_, e) => e.serial = serial).map (·.2)

def content (s : Session) (serial : Nat) : ByteArray :=
  match s.entryOf? serial with
  | some { node := .file content, .. } => content
  | _ => ByteArray.empty

/-- How many zeros a reader of endless zeros is offered at once. -/
def zerosOffered : Nat := 1048576

def available (s : Session) (channel : Nat) : ByteArray :=
  match s.channels[channel]? with
  | some (.file serial offset _ _ _) =>
    let content := s.content serial
    content.extract offset content.size
  | some (.buffer bytes) => bytes
  | some .zeros => ⟨Array.replicate zerosOffered 0⟩
  | some .full => ⟨Array.replicate zerosOffered 0⟩
  | _ => ByteArray.empty

def readable (s : Session) (channel : Nat) : Except Errno ByteArray :=
  match s.channels[channel]? with
  | some (.file _ _ _ false _) => .error .badDescriptor
  | some .directory => .error .isDirectory
  | some _ => .ok (s.available channel)
  | none => .error .badDescriptor

/-- Read from a channel until so many bytes are left of what was available. -/
def leave (s : Session) (channel : Nat) (left : ByteArray) : Session :=
  match s.channels[channel]? with
  | some (.file serial _ append reads writes) =>
    s.setChannel channel
      (.file serial ((s.content serial).size - left.size) append reads writes)
  | some (.buffer _) => s.setChannel channel (.buffer left)
  | _ => s

def refusal? (s : Session) (channel : Nat) : Option Errno :=
  match s.channels[channel]? with
  | some (.file _ _ _ _ false) => some .badDescriptor
  | some .directory => some .badDescriptor
  | some .full => some .noSpace
  | some _ => none
  | none => some .badDescriptor

def write (s : Session) (channel : Nat) (bytes : ByteArray) : Session :=
  if bytes.isEmpty then s
  else match s.channels[channel]? with
    | some (.stream stream) => { s with output := s.output.push (stream, bytes) }
    | some (.file serial offset append reads writes) =>
      if writes then
        let start := if append then (s.content serial).size else offset
        let s := s.setChannel channel (.file serial (start + bytes.size) append reads writes)
        { s with files := s.files.writeAt serial start bytes }
      else s
    | some (.buffer before) =>
      (s.setChannel channel .nothing).setChannel channel (.buffer (before ++ bytes))
    | _ => s

/-- Write to a descriptor; a descriptor that leads nowhere loses what is written. -/
def writeTo (s : Session) (descriptors : Descriptors) (descriptor : Nat) (bytes : ByteArray) :
    Session :=
  match descriptors.lookup descriptor with
  | some channel => s.write channel bytes
  | none => s

def channelOf (e : Entry) (how : Opening) : Channel :=
  match e.node with
  | .device "zero" => .zeros
  | .device "full" => .full
  | .file _ => .file e.serial 0 how.append how.reads how.writes
  | .directory => .directory
  | _ => .nothing

def descriptorOf? (e : Entry) : Option Nat :=
  match e.node with
  | .device name =>
    if name.startsWith "fd/" then (name.drop 3).toString.toNat? else none
  | _ => none

/-- Open what a descriptor leads to once more. A file is opened anew, from its start. -/
def reopen (s : Session) (descriptors : Descriptors) (descriptor : Nat) (how : Opening) :
    Except Errno (Nat × Session) :=
  match descriptors.lookup descriptor with
  | none => .error .noEntry
  | some channel =>
    match s.channels[channel]? with
    | some (.file serial _ _ _ _) =>
      let s := if how.empties then
          { s with files := s.files.alter serial fun e =>
            { e with node := .file ByteArray.empty, modified := s.files.now } }
        else s
      .ok (s.addChannel (.file serial 0 how.append how.reads how.writes))
    | some _ => .ok (channel, s)
    | none => .error .noEntry

/-- Open a file. One that is made gets some permissions. -/
def openFile (s : Session) (descriptors : Descriptors) (p : Path) (how : Opening)
    (mode : Nat) : Except Errno (Nat × Session) :=
  match s.files.status p with
  | .ok (_, e) =>
    if how.fresh && e.isFile then .error .alreadyExists
    else if e.isDirectory && how.writes then .error .isDirectory
    else if e.node = .device "tty" then .error .noDevice
    else match descriptorOf? e with
      | some descriptor => s.reopen descriptors descriptor how
      | none =>
        if (how.reads && !e.readable) || (how.writes && !e.writable) then .error .accessDenied
        else if how.empties && e.isFile then
          let files := (s.files.alter e.serial fun e =>
            { e with node := .file ByteArray.empty, modified := s.files.now }).tick
          .ok ({ s with files := files }.addChannel (channelOf e how))
        else .ok (s.addChannel (channelOf e how))
  | .error failure =>
    let number := failure.number
    if how.creates && number = .noEntry then
      match s.files.createFile p mode with
      | .ok (serial, files) =>
        .ok ({ s with files := files }.addChannel
          (.file serial 0 how.append how.reads how.writes))
      | .error failure => .error (failure.number)
    else .error number

/-- Let time pass. The answer tells whether the deadline comes first. -/
def pass (s : Session) (nanoseconds : Nat) : Bool × Session :=
  let later : Timestamp := ⟨s.files.now.nanoseconds + nanoseconds⟩
  match s.deadline? with
  | some deadline =>
    if later.nanoseconds > deadline.nanoseconds then
      (true, { s with files.now := ⟨max s.files.now.nanoseconds deadline.nanoseconds⟩ })
    else (false, { s with files.now := later })
  | none => (false, { s with files.now := later })

end Session

end Launchpad.Machine
