import Launchpad.Tar.Archive
import Launchpad.FileSystem.Change

/-!
Unpacking an archive into a directory. Members are unpacked in order, directories last and deepest
first, so that the permissions of a directory cannot keep its own content out. A member whose name
climbs with `..` is passed over, a leading separator is dropped, and no member is written through a
link that leads out of the directory. A member that cannot be unpacked ends the work and leaves
what was written before it.
-/

namespace Launchpad.Tar

/-- The state after some work, together with how the work went. -/
abbrev Outcome := Except IoError Unit × FileSystem

/-- Work that ends at its first error and keeps the state reached by then. -/
def Outcome.andThen (first : Outcome) (next : FileSystem → Outcome) : Outcome :=
  match first with
  | (.ok (), fs) => next fs
  | (.error e, fs) => (.error e, fs)

def attempt (fs : FileSystem) (change : Except IoError FileSystem) : Outcome :=
  match change with
  | .ok changed => (.ok (), changed)
  | .error e => (.error e, fs)

/-- A path leads, links followed, to a place at or below the directory that is unpacked into. -/
def checkInside (fs : FileSystem) (top : Location) (p : Path) : Except IoError Unit := do
  let (l, _) ← fs.status p
  if top.isPrefixOf l then .ok ()
  else .error (.malformed "trying to unpack outside of destination path")

/-- The location itself and its ancestors as far as they cannot be found, the highest first. -/
def missing (fs : FileSystem) (l : Location) : List Location :=
  let ancestors := (List.range (l.length + 1)).map fun n => l.take (l.length - n)
  (ancestors.takeWhile fun a => !(fs.find (Location.toPath a) false).isOk).reverse

/-- Make the directory that will hold a member, with its ancestors, as long as each lies inside. -/
def makeHolder (fs : FileSystem) (top holder : Location) : Outcome :=
  (missing fs holder).foldl (fun done l =>
    done.andThen fun fs =>
      match checkInside fs top (Location.toPath l.dropLast) with
      | .error e => (.error e, fs)
      | .ok () => fs.makeDirectories l.toPath) (.ok (), fs)

/-- Give what a path names the permissions that a header states, if it states any. -/
def applyMode (h : Header) (p : Path) (fs : FileSystem) : Outcome :=
  match h.mode? with
  | some mode => attempt fs (fs.setMode p (mode % 0o1000))
  | none => (.ok (), fs)

def unpackDirectory (h : Header) (p : Path) (fs : FileSystem) : Outcome :=
  let isThere : Bool := match fs.find p false with
    | .ok (_, e) => e.isDirectory
    | .error _ => false
  let made : Outcome := match fs.makeDirectory p with
    | .ok made => (.ok (), made)
    | .error e => (if e = .os .alreadyExists && isThere then .ok () else .error e, fs)
  made.andThen (applyMode h p)

/-- Unpack a hard link. Its target is looked for in the directory that is unpacked into. -/
def unpackHardLink (top : Location) (target p : Path) (fs : FileSystem) : Outcome :=
  let source := top.toPath.join target
  match checkInside fs top source with
  | .error e => (.error e, fs)
  | .ok () => attempt fs (fs.shareEntry source p)

/-- Unpack a symbolic link, in place of what stood there unless that is a directory. -/
def unpackSymbolicLink (target p : Path) (fs : FileSystem) : Outcome :=
  match fs.makeLink target p with
  | .ok made => (.ok (), made)
  | .error e =>
    if e = .os .alreadyExists then
      (attempt fs (fs.unlink p)).andThen fun fs => attempt fs (fs.makeLink target p)
    else (.error e, fs)

/-- Unpack a file, in place of what stood there unless that is a directory. A content that is cut
short is written as far as it goes. -/
def unpackFile (m : Member) (p : Path) (fs : FileSystem) : Outcome :=
  let cleared : Outcome := match fs.find p false with
    | .ok _ => attempt fs (fs.unlink p)
    | .error _ => (.ok (), fs)
  cleared.andThen fun fs =>
    match fs.createNew p m.content with
    | .error e => (.error e, fs)
    | .ok (_, fs) =>
      if m.content.size < m.size then (.error (.malformed "failed to write entire file"), fs)
      else
        let dated : Outcome := match m.header.modified? with
          | some seconds =>
            let shown := if seconds = 0 then 1 else seconds
            attempt fs (fs.setModified p (.ofParts shown 0))
          | none => (.ok (), fs)
        dated.andThen (applyMode m.header p)

def unpackContent (top : Location) (m : Member) (p : Path) (fs : FileSystem) : Outcome :=
  match m.header.kind with
  | .directory => unpackDirectory m.header p fs
  | .hardLink | .symbolicLink =>
    match m.linkName? with
    | none | some [] => (.error (.malformed "link without a target"), fs)
    | some target =>
      if m.header.kind = .hardLink then unpackHardLink top (.ofBytes target) p fs
      else unpackSymbolicLink (.ofBytes target) p fs
  | .globalSettings | .localSettings | .longName | .longLink => (.ok (), fs)
  | .regular | .sparse =>
    if !m.header.isUstar && m.name.getLast? = some '/'.toUInt8 then unpackDirectory m.header p fs
    else unpackFile m p fs

/-- The names below the directory that is unpacked into at which a member is unpacked; a member
whose name climbs or holds nothing has none. -/
def Member.names? (m : Member) : Option (List Name) :=
  let names := (Path.ofBytes m.name).names
  if names = [] || names.contains Name.up then none else some names

def unpackMember (top : Location) (m : Member) (fs : FileSystem) : Outcome :=
  match m.names? with
  | none => (.ok (), fs)
  | some names =>
    let target := top ++ names
    (makeHolder fs top target.dropLast).andThen fun fs =>
      match checkInside fs top (Location.toPath target.dropLast) with
      | .error e => (.error e, fs)
      | .ok () => unpackContent top m target.toPath fs

/-- Directories wait until every other member is unpacked. -/
def Member.isDeferred (m : Member) : Bool :=
  m.header.kind = .directory

/-- Directories in falling order of their names' bytes, so that the deeper come first. -/
def deferredOrder (members : List Member) : List Member :=
  (members.filter (·.isDeferred)).mergeSort fun a b =>
    !(a.name.map (·.toNat) < b.name.map (·.toNat))

def unpackAll (top : Location) (members : List Member) (fs : FileSystem) : Outcome :=
  members.foldl (fun done m => done.andThen (unpackMember top m)) (.ok (), fs)

def Archive.unpackAt (archive : Archive) (top : Location) (fs : FileSystem) : Outcome :=
  (unpackAll top (archive.members.filter (!·.isDeferred)) fs).andThen fun fs =>
    match archive.fault? with
    | some fault => (.error (.malformed fault.message), fs)
    | none => unpackAll top (deferredOrder archive.members) fs

/-- A directory to unpack into, made when nothing stands there. -/
def prepare (destination : Path) (fs : FileSystem) : Outcome :=
  if (fs.find destination false).isOk then (.ok (), fs) else fs.makeDirectories destination

/-- Unpack an archive into a directory, which is made when it is missing. -/
def Archive.unpack (archive : Archive) (destination : Path) (fs : FileSystem) : Outcome :=
  (prepare destination fs).andThen fun fs =>
    match fs.status destination with
    | .ok (top, _) => archive.unpackAt top fs
    | .error e =>
      if archive.members.all (·.names?.isNone) && archive.fault?.isNone then (.ok (), fs)
      else (.error e, fs)

end Launchpad.Tar
