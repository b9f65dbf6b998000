import Launchpad.Proofs.Copy.Fetching
import Launchpad.Proofs.Launch.Calls

/-!
Fetching a copy calls no executor. What can fail on the way is finding an archive, reading a time
stamp, deleting or making the directory, and unpacking.
-/

namespace Launchpad

open Launchpad.Action Results

variable {c : Config} {files : FileSystem}

/-- An entry of the log that is a message and nothing else. -/
def LogEntry.IsPlain (entry : LogEntry) : Prop := entry.fields = []

/-- Actions that call nobody, write plain messages to the log, and fail only as what comes before a
launch can. -/
abbrev Action.PreparesPlainly {α : Type} (a : Action α) : Prop :=
  a.Quiet LogEntry.IsPlain fun failure => failure.precedesLaunch = true

/-- Actions that call nobody and fail only as what comes before a launch can. -/
abbrev Action.Prepares {α : Type} (a : Action α) : Prop :=
  a.Quiet (fun _ => True) fun failure => failure.precedesLaunch = true

namespace Artifact

theorem precedesLaunch_of_locate {name : String} {failure : Failure}
    (h : locate c files name = .error failure) : failure.precedesLaunch = true := by
  rcases isUnresolved_of_locate h with rfl | ⟨path, rfl⟩
  · rfl
  · rfl

theorem precedesLaunch_of_modifiedAt {path : Path} {failure : Failure}
    (h : modifiedAt files path = .error failure) : failure.precedesLaunch = true := by
  obtain ⟨cause, -, rfl⟩ := mapError_eq_error.mp h
  rfl

theorem precedesLaunch_of_modified {name : String} {failure : Failure}
    (h : modified c files name = .error failure) : failure.precedesLaunch = true := by
  unfold modified at h
  cases hpath : locate c files name with
  | ok path =>
    rw [hpath] at h
    exact precedesLaunch_of_modifiedAt h
  | error cause =>
    rw [hpath] at h
    cases h
    exact precedesLaunch_of_locate hpath

end Artifact

namespace Copy

theorem precedesLaunch_of_firstNewer {moment : Timestamp} {names : List String}
    {failure : Failure}
    (h : firstNewer (Artifact.modified c files) moment names = .error failure) :
    failure.precedesLaunch = true := by
  induction names with
  | nil => cases h
  | cons name rest ih =>
    rw [firstNewer] at h
    split at h
    · rename_i hmodified
      cases h
      exact Artifact.precedesLaunch_of_modified hmodified
    · split at h
      · cases h
      · exact ih h

theorem isStale_preparesPlainly (copy : Copy) (c : Config) : (copy.isStale c).PreparesPlainly := by
  unfold isStale
  refine .bind .files fun files => ?_
  split
  · exact .bind (.log rfl) fun _ => .pure true
  · refine .bind (.ofExcept fun _ => Artifact.precedesLaunch_of_modifiedAt) fun moment => ?_
    refine .bind (.ofExcept fun _ => precedesLaunch_of_firstNewer) fun newer? => ?_
    cases newer? with
    | some name => exact .bind (.log rfl) fun _ => .pure true
    | none => exact .pure false

theorem discard_preparesPlainly (copy : Copy) : copy.discard.PreparesPlainly := by
  unfold discard
  refine .bind .files fun files => ?_
  split
  · exact .bind (.log rfl) fun _ => .change fun _ => rfl
  · exact .pure ()

theorem addArtifact_preparesPlainly (host : Host) (destination : Path) (name : String) :
    (addArtifact host destination name).PreparesPlainly := by
  unfold addArtifact
  refine .bind .files fun files => ?_
  refine .bind (.ofExcept fun _ => Artifact.precedesLaunch_of_locate) fun archive => ?_
  exact .bind (.log rfl) fun _ => .change fun _ => rfl

theorem addArtifacts_preparesPlainly (host : Host) (destination : Path) (names : List String) :
    (addArtifacts host destination names).PreparesPlainly := by
  induction names with
  | nil => exact .pure ()
  | cons name rest ih => exact .bind (addArtifact_preparesPlainly host destination name) fun _ => ih

theorem renew_preparesPlainly (copy : Copy) (host : Host) : (copy.renew host).PreparesPlainly := by
  unfold renew
  refine .bind copy.discard_preparesPlainly fun _ => ?_
  exact .bind (.change fun _ => rfl) fun _ => addArtifacts_preparesPlainly ..

/-- A fetch calls nobody. -/
theorem ensureCurrent_preparesPlainly (copy : Copy) (host : Host) :
    (copy.ensureCurrent host).PreparesPlainly := by
  unfold ensureCurrent
  refine .bind (copy.isStale_preparesPlainly host.config) fun stale => ?_
  cases stale with
  | false => exact .pure _
  | true => exact .bind (copy.renew_preparesPlainly host) fun _ => .pure _

theorem ensureCurrent_prepares (copy : Copy) (host : Host) :
    (copy.ensureCurrent host).Prepares :=
  (copy.ensureCurrent_preparesPlainly host).mono fun _ _ => trivial

end Copy

end Launchpad
