import Launchpad.Artifact
import Launchpad.FileSystem.Change
import Launchpad.Host

/-!
Copies: directories that hold what artifacts unpack to. Time stamps alone say whether a copy is
stale: it is when it is missing or when some archive is newer. A stale copy is thrown away as a
whole and unpacked again, artifact after artifact. A failure on the way leaves what was done before
it.
-/

namespace Launchpad

/-- A copy. Of two artifacts with an entry of one name, the later one decides. -/
structure Copy where
  directory : Path
  artifacts : List String
  deriving DecidableEq, Repr, Inhabited

namespace Copy

inductive Outcome where
  /-- Nothing; the copy was current. -/
  | kept
  /-- The copy was unpacked again. -/
  | renewed
  deriving DecidableEq, Repr, Inhabited

def Outcome.word : Outcome → String
  | .kept => "UpToDate"
  | .renewed => "Extracted"

/-- The first artifact with a date behind a moment. Artifacts after it are not looked at, and one
that has no date ends the search. -/
def firstNewer (dated : String → Except Failure Timestamp) (moment : Timestamp) :
    List String → Except Failure (Option String)
  | [] => .ok none
  | name :: rest =>
    match dated name with
    | .error e => .error e
    | .ok modified => if moment < modified then .ok (some name) else firstNewer dated moment rest

def isStale (copy : Copy) (c : Config) : Action Bool := do
  let files ← Action.files
  if !files.pathExists copy.directory then
    Action.log .debug (copy.directory.text ++ " does not exist and needs to be extracted")
    return true
  else
    let moment ← Action.ofExcept id (Artifact.modifiedAt files copy.directory)
    match ← Action.ofExcept id (firstNewer (Artifact.modified c files) moment copy.artifacts) with
    | some name =>
      Action.log .debug (name ++ " needs to be extracted")
      return true
    | none => return false

/-- Unpack an archive, read from the files, into a directory. What opens but cannot be read, such
as a directory, fails only after the destination was made. -/
def unpackFile (unpacker : Unpacker) (archive destination : Path) (files : FileSystem) :
    Except IoError Unit × FileSystem :=
  match files.readFile archive with
  | .ok bytes => unpacker bytes destination files
  | .error cause =>
    if cause = .os .isDirectory then
      (Tar.prepare destination files).andThen fun files => (.error cause, files)
    else (.error cause, files)

/-- Add what one archive holds to a directory. -/
def extract (unpacker : Unpacker) (archive destination : Path) : Action Unit :=
  Action.change (unpackFile unpacker archive destination) (.unextractable archive)

def addArtifact (host : Host) (destination : Path) (name : String) : Action Unit := do
  let archive ← Action.ofExcept id (Artifact.locate host.config (← Action.files) name)
  Action.log .info ("Extracting " ++ archive.text ++ " into " ++ destination.text)
  extract host.unpacker archive destination

/-- Add what artifacts hold to a directory, one after the other. -/
def addArtifacts (host : Host) (destination : Path) : List String → Action Unit
  | [] => return ()
  | name :: rest => do
    addArtifact host destination name
    addArtifacts host destination rest

def discard (copy : Copy) : Action Unit := do
  if (← Action.files).pathExists copy.directory then
    Action.log .debug ("Deleting the old test directory " ++ copy.directory.text)
    Action.change (·.removeTree copy.directory) (.io .deletingDirectory copy.directory)

/-- Make a copy anew, in an empty directory. -/
def renew (copy : Copy) (host : Host) : Action Unit := do
  copy.discard
  Action.change (·.makeDirectories copy.directory) (.io .creatingDirectory copy.directory)
  addArtifacts host copy.directory copy.artifacts

def ensureCurrent (copy : Copy) (host : Host) : Action Outcome := do
  if ← copy.isStale host.config then
    copy.renew host
    return .renewed
  else
    return .kept

end Copy

end Launchpad
