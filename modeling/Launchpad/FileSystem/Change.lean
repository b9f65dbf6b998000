import Launchpad.FileSystem.Lookup

/-!
Changes to a file system. A change that is refused leaves the file system as it was, with two
exceptions that are made of several steps: making a directory together with its ancestors, which
keeps the ancestors it could make, and removing a tree.
-/

namespace Launchpad

namespace FileSystem

/-- The directory that holds a location may get and lose entries. -/
def holderWritable (fs : FileSystem) (l : Location) : Except IoError Unit :=
  match fs.entry? l.dropLast with
  | some e => if e.writable then .ok () else .error (.os .accessDenied)
  | none => .error (.os .noEntry)

/-- Make one directory. A link in the last place is not followed. -/
def makeDirectory (fs : FileSystem) (p : Path) : Except IoError FileSystem := do
  let found ← fs.locateBare p
  match found.entry? with
  | some _ => .error (.os .alreadyExists)
  | none =>
    fs.holderWritable found.location
    .ok (fs.add found.location .directory directoryMode)

/-- Make a directory, and before it those of its ancestors that are missing. A directory that is
already there is fine. `fuel` bounds the number of ancestors. -/
def makeDirectoriesFuel : Nat → FileSystem → Path → Except IoError Unit × FileSystem
  | 0, fs, _ => (.error .noAncestor, fs)
  | fuel + 1, fs, p =>
    if p.isEmpty then (.ok (), fs)
    else match fs.makeDirectory p with
      | .ok made => (.ok (), made)
      | .error first =>
        if first ≠ .os .noEntry then
          (if fs.isDirectory p then .ok () else .error first, fs)
        else match p.parent? with
          | none => (.error .noAncestor, fs)
          | some parent =>
            match makeDirectoriesFuel fuel fs parent with
            | (.error e, fs) => (.error e, fs)
            | (.ok (), fs) =>
              match fs.makeDirectory p with
              | .ok made => (.ok (), made)
              | .error e => (if fs.isDirectory p then .ok () else .error e, fs)

/-- Make a directory together with its missing ancestors. -/
def makeDirectories (fs : FileSystem) (p : Path) : Except IoError Unit × FileSystem :=
  makeDirectoriesFuel (p.glyphs.length + 1) fs p

/-- A directory at or below a location whose content may not be removed: it cannot be listed, or it
holds something and may not be searched and changed. -/
def blocked (fs : FileSystem) (top : Location) : Bool :=
  fs.entries.any fun (l, e) =>
    top.isPrefixOf l && e.isDirectory &&
      (!e.readable || (!(e.writable && e.executable) && fs.children l ≠ []))

/-- Why the directory that a path names cannot itself be removed, once it is empty: the path ends in
a dot or two, or in a separator behind a link. -/
def unremovable? (fs : FileSystem) (p : Path) : Option Errno :=
  match p.pieces.getLast? with
  | none => none
  | some last =>
    if last = [.char '.'] then some .invalid
    else if last = Name.up then some .notEmpty
    else match fs.find p.withoutSlash false with
      | .ok (_, e) => if e.isDirectory then none else some .notDirectory
      | .error _ => none

/-- Remove everything below a directory; it carries the current time if there was anything. -/
def empty (fs : FileSystem) (l : Location) : FileSystem :=
  if fs.children l = [] then fs else ((fs.eraseInside l).stamp l).tick

/-- Remove a directory with everything below it; a link is removed itself, not what it leads to.
A directory that cannot be removed under the path given is emptied all the same. -/
def removeTree (fs : FileSystem) (p : Path) : Except IoError Unit × FileSystem :=
  match fs.find p false with
  | .error e => (.error e, fs)
  | .ok (l, e) =>
    match e.node with
    | .link _ =>
      match fs.holderWritable l with
      | .ok () => (.ok (), fs.remove l)
      | .error e => (.error e, fs)
    | .directory =>
      if fs.blocked l then (.error (.os .accessDenied), fs)
      else match fs.unremovable? p with
        | some number => (.error (.os number), fs.empty l)
        | none =>
          match fs.holderWritable l with
          | .ok () => (.ok (), fs.remove l)
          | .error e => (.error e, fs.empty l)
    | _ => (.error (.os .notDirectory), fs)

/-- Remove one entry that is no directory. -/
def unlink (fs : FileSystem) (p : Path) : Except IoError FileSystem := do
  let (l, e) ← fs.find p false
  if e.isDirectory then .error (.os .isDirectory)
  else
    fs.holderWritable l
    .ok (fs.remove l)

def removeDirectory (fs : FileSystem) (p : Path) : Except IoError FileSystem := do
  let found ← fs.locateBare p
  let (l, e) ← found.there
  if !e.isDirectory then .error (.os .notDirectory)
  else match fs.unremovable? p with
    | some number => .error (.os number)
    | none =>
      if fs.children l ≠ [] then .error (.os .notEmpty)
      else
        fs.holderWritable l
        .ok (fs.remove l)

/-- Move what a path names to another path, in place of what stands there. A directory can only
replace an empty directory, and cannot move below itself. -/
def rename (fs : FileSystem) (source target : Path) : Except IoError FileSystem := do
  let origin ← fs.locateBare source
  let (l, e) ← origin.there
  let found ← fs.locateBare target
  fs.holderWritable l
  fs.holderWritable found.location
  let m := found.location
  let moved : FileSystem :=
    let entries := (fs.eraseBelow m).entries.map fun (k, own) =>
      (if l.isPrefixOf k then m ++ k.drop l.length else k, own)
    ((({ fs with entries := entries }).stamp l.dropLast).stamp m.dropLast).tick
  if e.isDirectory && l.isPrefixOf m && l ≠ m then .error (.os .invalid)
  else if target.endsInSlash && !e.isDirectory then .error (.os .notDirectory)
  else match found.entry? with
    | none => .ok moved
    | some other =>
      if other.serial = e.serial then .ok fs
      else if e.isDirectory && !other.isDirectory then .error (.os .notDirectory)
      else if !e.isDirectory && other.isDirectory then .error (.os .isDirectory)
      else if other.isDirectory && fs.children m ≠ [] then .error (.os .notEmpty)
      else .ok moved

/-- Open a file for writing from its start, making it when it is missing and emptying it when it is
there. Answers the number of its entry. -/
def createFile (fs : FileSystem) (p : Path) (mode : Nat := fileMode) :
    Except IoError (Nat × FileSystem) := do
  let found ← fs.locate p true
  match found.entry? with
  | none =>
    if p.endsInSlash then .error (.os .isDirectory)
    else
      fs.holderWritable found.location
      .ok (fs.nextSerial, fs.add found.location (.file ByteArray.empty) mode)
  | some e =>
    if e.isDirectory then .error (.os .isDirectory)
    else if !e.writable then .error (.os .accessDenied)
    else match e.node with
      | .file _ =>
        .ok (e.serial, (fs.alter e.serial fun e =>
          { e with node := .file ByteArray.empty, modified := fs.now }).tick)
      | _ => .ok (e.serial, fs)

/-- Make a file that is not there yet, with its content. -/
def createNew (fs : FileSystem) (p : Path) (content : ByteArray) (mode : Nat := fileMode) :
    Except IoError (Nat × FileSystem) := do
  let found ← fs.locate p false
  match found.entry? with
  | some _ => .error (.os .alreadyExists)
  | none =>
    if p.endsInSlash then .error (.os .isDirectory)
    else
      fs.holderWritable found.location
      .ok (fs.nextSerial, fs.add found.location (.file content) mode)

/-- Make a link that holds a path. -/
def makeLink (fs : FileSystem) (target p : Path) : Except IoError FileSystem := do
  let found ← fs.locate p false
  match found.entry? with
  | some _ => .error (.os .alreadyExists)
  | none =>
    if target.isEmpty then .error (.os .noEntry)
    else
      fs.holderWritable found.location
      .ok (fs.add found.location (.link target) 0o777)

/-- Make a second location share the entry of a first. -/
def shareEntry (fs : FileSystem) (source p : Path) : Except IoError FileSystem := do
  let (_, e) ← fs.find source false
  let found ← fs.locate p false
  match found.entry? with
  | some _ => .error (.os .alreadyExists)
  | none =>
    if e.isDirectory then .error (.os .notPermitted)
    else
      fs.holderWritable found.location
      .ok ((fs.stamp found.location.dropLast).insert found.location e).tick

/-- Put bytes into a content at an offset; a gap before it is filled with zeros. -/
def splice (content : ByteArray) (offset : Nat) (bytes : ByteArray) : ByteArray :=
  let gap := ByteArray.mk (Array.replicate (offset - content.size) 0)
  content.extract 0 offset ++ gap ++ bytes ++ content.extract (offset + bytes.size) content.size

def writeAt (fs : FileSystem) (serial offset : Nat) (bytes : ByteArray) : FileSystem :=
  (fs.alter serial fun e =>
    match e.node with
    | .file content => { e with node := .file (splice content offset bytes), modified := fs.now }
    | _ => e).tick

/-- Set the time of the last change of what a path names. -/
def setModified (fs : FileSystem) (p : Path) (t : Timestamp) : Except IoError FileSystem := do
  let (_, e) ← fs.status p
  .ok (fs.alter e.serial fun e => { e with modified := t })

def setMode (fs : FileSystem) (p : Path) (mode : Nat) : Except IoError FileSystem := do
  let (_, e) ← fs.status p
  .ok (fs.alter e.serial fun e => { e with mode := mode })

end FileSystem

end Launchpad
