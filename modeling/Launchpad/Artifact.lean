import Launchpad.Config.Basic
import Launchpad.FileSystem.Lookup
import Launchpad.World

/-!
Artifacts: archives known by name. The configuration gives each name a path; an artifact that is
asked for must be there.
-/

namespace Launchpad.Artifact

/-- Where an artifact lies. A name without a path and a path with nothing there are two failures. -/
def locate (c : Config) (files : FileSystem) (name : String) : Except Failure Path :=
  match c.artifacts.lookup name with
  | none => .error (.unknownArtifact name)
  | some relative =>
    let path := c.suitePath relative
    if files.pathExists path then .ok path else .error (.missingArtifact name path)

/-- The time of the last change of what a path names. -/
def modifiedAt (files : FileSystem) (path : Path) : Except Failure Timestamp :=
  (files.modified path).mapError (.io .readingTime path)

/-- The time of the last change of an artifact. -/
def modified (c : Config) (files : FileSystem) (name : String) : Except Failure Timestamp := do
  let path ← locate c files name
  modifiedAt files path

end Launchpad.Artifact
