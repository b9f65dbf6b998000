import Launchpad.Proofs.Copy.Fetching

/-!
Fetching with any way to find artifacts. The table of a configuration is one such way, and a fetch
that goes by it is the fetch that the operations make. Archives that are unpacked one after the
other leave an entry each in the log.
-/

namespace Launchpad

open Results

/-- A way to find artifacts and to date them. -/
structure Resolver where
  locate : FileSystem → String → Except Failure Path
  modified : FileSystem → String → Except Failure Timestamp

def Resolver.ofTable (c : Config) : Resolver where
  locate := Artifact.locate c
  modified := Artifact.modified c

namespace Copy

open Launchpad.Action

/-- Whether a copy has to be unpacked again. -/
def isStaleBy (copy : Copy) (resolver : Resolver) : Action Bool := do
  let files ← Action.files
  if !files.pathExists copy.directory then
    Action.log .debug (copy.directory.text ++ " does not exist and needs to be extracted")
    return true
  else
    let moment ← Action.ofExcept id (Artifact.modifiedAt files copy.directory)
    match ← Action.ofExcept id (firstNewer (resolver.modified files) moment copy.artifacts) with
    | some name =>
      Action.log .debug (name ++ " needs to be extracted")
      return true
    | none => return false

/-- Add what one artifact holds to a directory. -/
def addArtifactBy (resolver : Resolver) (unpacker : Unpacker) (destination : Path)
    (name : String) : Action Unit := do
  let archive ← Action.ofExcept id (resolver.locate (← Action.files) name)
  Action.log .info ("Extracting " ++ archive.text ++ " into " ++ destination.text)
  extract unpacker archive destination

/-- Add what artifacts hold to a directory, one after the other. -/
def addArtifactsBy (resolver : Resolver) (unpacker : Unpacker) (destination : Path) :
    List String → Action Unit
  | [] => return ()
  | name :: rest => do
    addArtifactBy resolver unpacker destination name
    addArtifactsBy resolver unpacker destination rest

/-- Make sure that a copy is current. -/
def ensureCurrentBy (copy : Copy) (resolver : Resolver) (unpacker : Unpacker) :
    Action Outcome := do
  if ← copy.isStaleBy resolver then
    copy.discard
    Action.change (·.makeDirectories copy.directory) (.io .creatingDirectory copy.directory)
    addArtifactsBy resolver unpacker copy.directory copy.artifacts
    return .renewed
  else
    return .kept

theorem addArtifactsBy_ofTable (host : Host) (destination : Path) (names : List String) :
    addArtifactsBy (.ofTable host.config) host.unpacker destination names =
      addArtifacts host destination names := by
  induction names with
  | nil => rfl
  | cons name rest ih =>
    rw [addArtifactsBy, ih]
    rfl

/-- The fetch of the operations goes by the table of the configuration. -/
theorem ensureCurrent_eq_ofTable (copy : Copy) (host : Host) :
    copy.ensureCurrent host = copy.ensureCurrentBy (.ofTable host.config) host.unpacker := by
  rw [ensureCurrentBy, addArtifactsBy_ofTable, ensureCurrent, renew]
  simp only [bind_assoc]
  rfl

variable {resolver : Resolver} {unpacker : Unpacker} {copy : Copy} {destination : Path}
  {name : String} {w w' : World} {failure : Failure}

/-! ### What the steps do -/

/-- The entry for a copy that is about to be thrown away. -/
def deleting (copy : Copy) : Event :=
  .logged ⟨.debug, "Deleting the old test directory " ++ copy.directory.text, []⟩

/-- The entry for an archive that is about to be opened and unpacked. -/
def extracting (destination archive : Path) : Event :=
  .logged ⟨.info, "Extracting " ++ archive.text ++ " into " ++ destination.text, []⟩

/-- A copy that is stale is left as it is by the question, which the log shows. -/
theorem perform_isStaleBy_true (h : (copy.isStaleBy resolver).perform w = (.ok true, w')) :
    ∃ entry, w' = w.record (.logged entry) := by
  unfold isStaleBy at h
  obtain ⟨files, _, hfiles, h⟩ := perform_bind_ok.mp h
  cases hfiles
  split at h
  · obtain ⟨_, _, hlog, h⟩ := perform_bind_ok.mp h
    cases hlog
    cases h
    exact ⟨_, rfl⟩
  · obtain ⟨moment, _, hmoment, h⟩ := perform_bind_ok.mp h
    rw [perform_ofExcept, Prod.mk.injEq] at hmoment
    obtain ⟨hmoment, rfl⟩ := hmoment
    obtain ⟨newer?, _, hnewer, h⟩ := perform_bind_ok.mp h
    rw [perform_ofExcept, Prod.mk.injEq] at hnewer
    obtain ⟨hnewer, rfl⟩ := hnewer
    cases newer? with
    | some name =>
      obtain ⟨_, _, hlog, h⟩ := perform_bind_ok.mp h
      cases hlog
      cases h
      exact ⟨_, rfl⟩
    | none => cases h

/-- A question without an answer leaves nothing behind. -/
theorem perform_isStaleBy_error
    (h : (copy.isStaleBy resolver).perform w = (.error failure, w')) : w' = w := by
  unfold isStaleBy at h
  rcases perform_bind_error.mp h with h | ⟨files, _, hfiles, h⟩
  · cases h
  cases hfiles
  split at h
  · rcases perform_bind_error.mp h with h | ⟨_, _, -, h⟩
    · cases h
    · cases h
  · rcases perform_bind_error.mp h with h | ⟨moment, _, hmoment, h⟩
    · rw [perform_ofExcept, Prod.mk.injEq] at h
      exact h.2.symm
    rw [perform_ofExcept, Prod.mk.injEq] at hmoment
    obtain ⟨-, rfl⟩ := hmoment
    rcases perform_bind_error.mp h with h | ⟨newer?, _, hnewer, h⟩
    · rw [perform_ofExcept, Prod.mk.injEq] at h
      exact h.2.symm
    rw [perform_ofExcept, Prod.mk.injEq] at hnewer
    obtain ⟨-, rfl⟩ := hnewer
    cases newer? with
    | some name =>
      rcases perform_bind_error.mp h with h | ⟨_, _, -, h⟩
      · cases h
      · cases h
    | none => cases h

/-- Throwing away a copy. -/
theorem perform_discard (copy : Copy) (w : World) :
    copy.discard.perform w =
      if w.files.pathExists copy.directory then
        ((w.files.removeTree copy.directory).1.mapError (.io .deletingDirectory copy.directory),
          { files := (w.files.removeTree copy.directory).2
            journal := w.journal ++ [copy.deleting] })
      else (.ok (), w) := by
  unfold discard
  cases hthere : w.files.pathExists copy.directory with
  | false => simp [perform_bind, hthere]
  | true =>
    simp only [perform_bind, perform_files, hthere, if_true, perform_log, perform_change]
    rfl

/-- Adding an artifact. -/
theorem perform_addArtifactBy (resolver : Resolver) (unpacker : Unpacker) (destination : Path)
    (name : String) (w : World) :
    (addArtifactBy resolver unpacker destination name).perform w =
      match resolver.locate w.files name with
      | .error failure => (.error failure, w)
      | .ok archive =>
        ((unpackFile unpacker archive destination w.files).1.mapError (.unextractable archive),
          { files := (unpackFile unpacker archive destination w.files).2
            journal := w.journal ++ [extracting destination archive] }) := by
  unfold addArtifactBy extract
  simp only [perform_bind, perform_files, perform_ofExcept, mapError_id]
  cases resolver.locate w.files name with
  | error failure => rfl
  | ok archive =>
    simp only [perform_log, perform_change]
    rfl

end Copy

end Launchpad
