import Launchpad.Path

/-!
A file system as a value. It is a finite table from locations to entries, together with a clock, the
working directory and a counter for fresh entries. A location is the list of names from the root
down, free of links and dots, so a change touches exactly the locations it names. Two locations may
share one entry: a change of content, of permissions or of the time stamp is then seen at both.
-/

namespace Launchpad

/-- Bytes are compared as the core library compares them. -/
instance (priority := 2000) bytesDecidableEq : DecidableEq ByteArray := ByteArray.instDecidableEq

/-- A moment, in nanoseconds since the beginning of 1970. -/
structure Timestamp where
  nanoseconds : Int
  deriving DecidableEq, Repr, Inhabited

namespace Timestamp

/-- The moment so many seconds and nanoseconds after the beginning of 1970. -/
def ofParts (seconds nanoseconds : Int) : Timestamp :=
  ⟨seconds * 1000000000 + nanoseconds⟩

/-- Whole seconds since the beginning of 1970. -/
def seconds (t : Timestamp) : Int := t.nanoseconds / 1000000000

/-- Nanoseconds within the current second. -/
def subsecond (t : Timestamp) : Int := t.nanoseconds % 1000000000

instance : LT Timestamp := ⟨fun a b => a.nanoseconds < b.nanoseconds⟩
instance : LE Timestamp := ⟨fun a b => a.nanoseconds ≤ b.nanoseconds⟩
instance (a b : Timestamp) : Decidable (a < b) :=
  inferInstanceAs (Decidable (a.nanoseconds < b.nanoseconds))

instance (a b : Timestamp) : Decidable (a ≤ b) :=
  inferInstanceAs (Decidable (a.nanoseconds ≤ b.nanoseconds))

end Timestamp

/-- The names from the root directory down; the root itself is the empty list. -/
abbrev Location := List Name

/-- The absolute path that spells a location. -/
def Location.toPath (l : Location) : Path :=
  ⟨Path.separator :: Text.joinWith Path.separator l⟩

def Location.ofTexts (names : List String) : Location := names.map Name.ofText

inductive Node where
  | file (content : ByteArray)
  | directory
  | link (target : Path)
  /-- A device; only its name matters. -/
  | device (name : String)
  deriving DecidableEq, Inhabited

/-- A node with its permissions, the time of its last change, and a number that tells whether two
locations share it. -/
structure Entry where
  serial : Nat
  node : Node
  mode : Nat
  modified : Timestamp
  deriving DecidableEq, Inhabited

namespace Entry

def isDirectory (e : Entry) : Bool := e.node = .directory

def isFile (e : Entry) : Bool :=
  match e.node with
  | .file _ => true
  | _ => false

/-- The user who runs the program owns every entry, so the owner's permission bits decide. -/
def readable (e : Entry) : Bool := e.mode.testBit 8
def writable (e : Entry) : Bool := e.mode.testBit 7
def executable (e : Entry) : Bool := e.mode.testBit 6

end Entry

def directoryMode : Nat := 0o755

/-- Permissions of new files. -/
def fileMode : Nat := 0o644

structure FileSystem where
  entries : List (Location × Entry)
  /-- The number that the next fresh entry gets. -/
  nextSerial : Nat
  /-- The clock. -/
  now : Timestamp
  /-- The working directory. -/
  here : Location
  deriving DecidableEq, Inhabited

namespace FileSystem

def entry? (fs : FileSystem) (l : Location) : Option Entry :=
  fs.entries.lookup l

/-- Let a microsecond pass. Every change does, so later changes carry later stamps. -/
def tick (fs : FileSystem) : FileSystem :=
  { fs with now := ⟨fs.now.nanoseconds + 1000⟩ }

/-- Put an entry at a location, in place of what stood there. -/
def insert (fs : FileSystem) (l : Location) (e : Entry) : FileSystem :=
  { fs with entries := (l, e) :: fs.entries.filter (·.1 ≠ l) }

/-- Remove a location together with everything below it. -/
def eraseBelow (fs : FileSystem) (l : Location) : FileSystem :=
  { fs with entries := fs.entries.filter fun (m, _) => !l.isPrefixOf m }

/-- Remove everything below a location and keep the location. -/
def eraseInside (fs : FileSystem) (l : Location) : FileSystem :=
  { fs with entries := fs.entries.filter fun (m, _) => m = l || !l.isPrefixOf m }

def alter (fs : FileSystem) (serial : Nat) (change : Entry → Entry) : FileSystem :=
  { fs with entries := fs.entries.map fun (l, e) => (l, if e.serial = serial then change e else e) }

/-- Give a location the current time. -/
def stamp (fs : FileSystem) (l : Location) : FileSystem :=
  { fs with entries := fs.entries.map fun (m, e) =>
      (m, if m = l then { e with modified := fs.now } else e) }

/-- Put a fresh node at a location; its directory and the node carry the current time. -/
def add (fs : FileSystem) (l : Location) (node : Node) (mode : Nat) : FileSystem :=
  let entry : Entry := ⟨fs.nextSerial, node, mode, fs.now⟩
  let stamped := fs.stamp l.dropLast
  ({ stamped with nextSerial := fs.nextSerial + 1 }.insert l entry).tick

/-- Remove a location and everything below it; its directory carries the current time. -/
def remove (fs : FileSystem) (l : Location) : FileSystem :=
  ((fs.eraseBelow l).stamp l.dropLast).tick

/-- The names directly below a location, in byte order. -/
def children (fs : FileSystem) (l : Location) : List Name :=
  let names := fs.entries.filterMap fun (m, _) =>
    if m.dropLast = l then m.getLast? else none
  names.mergeSort Name.le

/-- What a tree looks like from its top: the node at each location relative to the top. -/
def treeAt (fs : FileSystem) (top : Location) (below : Location) : Option Node :=
  (fs.entry? (top ++ below)).map (·.node)

end FileSystem

end Launchpad
