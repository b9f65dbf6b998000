import Launchpad.FileSystem.Basic
import Launchpad.IoError

/-!
Where a path leads. The look-up goes from the root or the working directory through one piece of the
path after the other, needs the right to search every directory on the way, and replaces a link by
the path it holds. At most forty links are followed, so every look-up ends.
-/

namespace Launchpad

/-- What a look-up arrives at: a location, and the entry there. Without an entry the location is
free, and the directory that would hold it exists. -/
structure Found where
  location : Location
  entry? : Option Entry
  deriving DecidableEq, Inhabited

def Found.there (found : Found) : Except IoError (Location × Entry) :=
  match found.entry? with
  | some e => .ok (found.location, e)
  | none => .error (.os .noEntry)

namespace FileSystem

/-- How many links one look-up may follow. -/
def linkLimit : Nat := 40

def nameLimit : Nat := 255

def pathLimit : Nat := 4095

def searchable (fs : FileSystem) (l : Location) : Except Errno Unit :=
  match fs.entry? l with
  | none => .error .noEntry
  | some e =>
    if !e.isDirectory then .error .notDirectory
    else if !e.executable then .error .accessDenied
    else .ok ()

/-- Go on from a directory through the remaining pieces of a path. The last piece may name nothing.
A link in the last place is followed when `follow` asks for it or when the path can only name a
directory. -/
def walk (fs : FileSystem) (follow : Bool) (links : Nat) (place : Location) (pieces : List Name)
    (onlyDirectory : Bool) : Except Errno Found :=
  match pieces with
  | [] =>
    match fs.entry? place with
    | none => .error .noEntry
    | some e =>
      if onlyDirectory && !e.isDirectory then .error .notDirectory else .ok ⟨place, some e⟩
  | piece :: rest =>
    match fs.searchable place with
    | .error e => .error e
    | .ok () =>
      if piece = [.char '.'] then walk fs follow links place rest onlyDirectory
      else if piece = Name.up then walk fs follow links place.dropLast rest onlyDirectory
      else if (Name.bytes piece).length > nameLimit then .error .nameTooLong
      else
        let next := place ++ [piece]
        match fs.entry? next with
        | none => if rest = [] then .ok ⟨next, none⟩ else .error .noEntry
        | some e =>
          match e.node with
          | .link target =>
            if rest = [] && !follow && !onlyDirectory then .ok ⟨next, some e⟩
            else match links with
              | 0 => .error .linkLoop
              | links + 1 =>
                if target.isEmpty then .error .noEntry
                else
                  walk fs follow links (if target.isAbsolute then [] else place)
                    (target.pieces ++ rest) (onlyDirectory || rest = [] && target.endsInSlash)
          | _ => walk fs follow links next rest onlyDirectory
termination_by (links, pieces.length)

/-- Look a path up, from the root when it is absolute and from the working directory otherwise. -/
def locate (fs : FileSystem) (p : Path) (follow : Bool) : Except IoError Found :=
  if p.glyphs.contains (.char '\x00') then .error .nulInPath
  else if p.isEmpty then .error (.os .noEntry)
  else if p.bytes.length > pathLimit then .error (.os .nameTooLong)
  else
    let start := if p.isAbsolute then [] else fs.here
    (fs.walk follow linkLimit start p.pieces p.endsInSlash).mapError .os

/-- Look up where something is to be made, moved or removed under a path. A link in the last place
is not followed, also if separators stand behind it, but they count for the length of the path. -/
def locateBare (fs : FileSystem) (p : Path) : Except IoError Found :=
  if p.glyphs.contains (.char '\x00') then .error .nulInPath
  else if p.bytes.length > pathLimit then .error (.os .nameTooLong)
  else fs.locate p.withoutSlash false

def find (fs : FileSystem) (p : Path) (follow : Bool) : Except IoError (Location × Entry) := do
  let found ← fs.locate p follow
  found.there

/-- The entry that a path names, links followed. -/
def status (fs : FileSystem) (p : Path) : Except IoError (Location × Entry) :=
  fs.find p true

/-- Whether a path names anything, links followed. -/
def pathExists (fs : FileSystem) (p : Path) : Bool :=
  (fs.status p).isOk

/-- Whether a path names a directory, links followed. -/
def isDirectory (fs : FileSystem) (p : Path) : Bool :=
  match fs.status p with
  | .ok (_, e) => e.isDirectory
  | .error _ => false

/-- The time of the last change of what a path names. -/
def modified (fs : FileSystem) (p : Path) : Except IoError Timestamp :=
  (fs.status p).map (·.2.modified)

def readFile (fs : FileSystem) (p : Path) : Except IoError ByteArray := do
  let (_, e) ← fs.status p
  if !e.readable then .error (.os .accessDenied)
  else match e.node with
    | .file content => .ok content
    | .directory => .error (.os .isDirectory)
    | _ => .ok ByteArray.empty

end FileSystem

end Launchpad
