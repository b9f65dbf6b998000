import Launchpad.Copy
import Launchpad.Proofs.Actions
import Launchpad.Proofs.FileSystem.Lookup

/-!
What fetching a copy does when it succeeds: it finds every archive no newer than the copy, or it
throws the copy away, makes an empty directory, and unpacks one archive after the other into it.
-/

namespace Launchpad

open Results

namespace FileSystem

variable {fs : FileSystem} {p : Path}

theorem pathExists_eq_true_iff : fs.pathExists p = true ↔ ∃ l e, fs.status p = .ok (l, e) := by
  unfold pathExists
  cases fs.status p with
  | ok found => exact ⟨fun _ => ⟨found.1, found.2, rfl⟩, fun _ => rfl⟩
  | error cause => simp [Except.isOk, Except.toBool]

theorem pathExists_of_status_error {cause : IoError} (h : fs.status p = .error cause) :
    fs.pathExists p = false := by
  rw [pathExists, h]
  rfl

/-- A tree that is removed is gone with everything below it. -/
theorem removeTree_ok {after : FileSystem} (h : fs.removeTree p = (.ok (), after)) :
    ∃ l e, fs.find p false = .ok (l, e) ∧ after = fs.remove l := by
  unfold removeTree at h
  cases hfound : fs.find p false with
  | error cause => simp [hfound] at h
  | ok found =>
    obtain ⟨l, e⟩ := found
    refine ⟨l, e, rfl, ?_⟩
    simp only [hfound] at h
    split at h
    · split at h
      · cases h
        rfl
      · cases h
    · split at h
      · cases h
      · split at h
        · cases h
        · split at h
          · cases h
            rfl
          · cases h
    · cases h

end FileSystem

namespace Artifact

variable {c : Config} {files : FileSystem} {name : String}

/-- The content of an artifact, as it is now. -/
def Holds (c : Config) (files : FileSystem) (name : String) (content : ByteArray) : Prop :=
  ∃ path, locate c files name = .ok path ∧ files.readFile path = .ok content

theorem locate_eq_ok {path : Path} :
    locate c files name = .ok path ↔
      ∃ relative, c.artifacts.lookup name = some relative ∧ path = c.suitePath relative ∧
        files.pathExists path = true := by
  unfold locate
  cases c.artifacts.lookup name with
  | none => simp
  | some relative =>
    by_cases hthere : files.pathExists (c.suitePath relative) = true
    · simp only [hthere, if_true, Except.ok.injEq, Option.some.injEq]
      constructor
      · rintro rfl
        exact ⟨relative, rfl, rfl, hthere⟩
      · rintro ⟨_, rfl, rfl, -⟩
        rfl
    · simp only [hthere]
      constructor
      · intro h
        cases h
      · rintro ⟨_, heq, rfl, hthere'⟩
        cases heq
        exact absurd hthere' hthere

/-- A failure to find the artifact of a name. -/
def IsUnresolved (name : String) (failure : Failure) : Prop :=
  failure = .unknownArtifact name ∨ ∃ path, failure = .missingArtifact name path

theorem isUnresolved_of_locate {failure : Failure}
    (h : locate c files name = .error failure) : IsUnresolved name failure := by
  unfold locate at h
  split at h
  · cases h
    exact .inl rfl
  · simp only at h
    split at h
    · cases h
    · cases h
      exact .inr ⟨_, rfl⟩

theorem modified_eq_ok {moment : Timestamp} :
    modified c files name = .ok moment ↔
      ∃ path l e, locate c files name = .ok path ∧ files.status path = .ok (l, e) ∧
        e.modified = moment := by
  constructor
  · intro h
    obtain ⟨path, hpath, h⟩ := bind_eq_ok.mp h
    obtain ⟨⟨l, e⟩, hstatus, hmodified⟩ := map_eq_ok.mp (mapError_eq_ok.mp h)
    exact ⟨path, l, e, hpath, hstatus, hmodified⟩
  · rintro ⟨path, l, e, hpath, hstatus, hmodified⟩
    exact bind_eq_ok.mpr ⟨path, hpath, mapError_eq_ok.mpr (map_eq_ok.mpr ⟨_, hstatus, hmodified⟩)⟩

end Artifact

namespace Copy

open Launchpad.Action

variable {copy : Copy} {c : Config} {host : Host} {w w' : World}

/-- No artifact is newer exactly when each has a date, and none lies behind the moment. -/
theorem firstNewer_eq_none {dated : String → Except Failure Timestamp} {moment : Timestamp}
    {names : List String} :
    firstNewer dated moment names = .ok none ↔
      ∀ name ∈ names, ∃ date, dated name = .ok date ∧ ¬moment < date := by
  induction names with
  | nil => simp [firstNewer]
  | cons name rest ih =>
    rw [firstNewer, List.forall_mem_cons]
    cases hdated : dated name with
    | error failure => simp
    | ok date =>
      by_cases hnewer : moment < date
      · simp [hnewer]
      · simp [hnewer, ih]

/-- The copy is there, and no archive is newer. -/
def LooksCurrent (copy : Copy) (c : Config) (files : FileSystem) : Prop :=
  ∃ l e, files.status copy.directory = .ok (l, e) ∧
    ∀ name ∈ copy.artifacts, ∃ date, Artifact.modified c files name = .ok date ∧ ¬e.modified < date

/-- A copy that is not there is stale. -/
theorem perform_isStale_missing (h : w.files.pathExists copy.directory = false) :
    ∃ entry, (copy.isStale c).perform w = (.ok true, w.record (.logged entry)) := by
  unfold isStale
  simp only [perform_bind, perform_files, h, Bool.not_false, if_true, perform_log, perform_pure]
  exact ⟨_, rfl⟩

/-- A copy that is there is stale if the search finds something newer. -/
theorem perform_isStale_there {l : Location} {e : Entry}
    (h : w.files.status copy.directory = .ok (l, e)) :
    (copy.isStale c).perform w =
      match firstNewer (Artifact.modified c w.files) e.modified copy.artifacts with
      | .error failure => (.error failure, w)
      | .ok none => (.ok false, w)
      | .ok (some name) =>
        (.ok true, w.record (.logged ⟨.debug, name ++ " needs to be extracted", []⟩)) := by
  have hthere := FileSystem.pathExists_eq_true_iff.mpr ⟨l, e, h⟩
  have hmoment : Artifact.modifiedAt w.files copy.directory = .ok e.modified := by
    rw [Artifact.modifiedAt, FileSystem.modified, h]
    rfl
  unfold isStale
  simp only [perform_bind, perform_files, hthere, Bool.not_true, Bool.false_eq_true, if_false,
    perform_ofExcept, hmoment, mapError_id]
  cases firstNewer (Artifact.modified c w.files) e.modified copy.artifacts with
  | error failure => rfl
  | ok newer? => cases newer? <;> rfl

/-- Asking changes no file, and a copy that is not stale looks current. -/
theorem perform_isStale_ok {stale : Bool} (h : (copy.isStale c).perform w = (.ok stale, w')) :
    w'.files = w.files ∧ (stale = false → copy.LooksCurrent c w.files) := by
  cases hthere : w.files.pathExists copy.directory with
  | false =>
    obtain ⟨entry, hasked⟩ := perform_isStale_missing hthere
    rw [hasked] at h
    cases h
    simp [World.record]
  | true =>
    obtain ⟨l, e, hstatus⟩ := FileSystem.pathExists_eq_true_iff.mp hthere
    rw [perform_isStale_there hstatus] at h
    cases hnewer : firstNewer (Artifact.modified c w.files) e.modified copy.artifacts with
    | error failure =>
      rw [hnewer] at h
      cases h
    | ok newer? =>
      rw [hnewer] at h
      cases newer? with
      | some name =>
        cases h
        simp [World.record]
      | none =>
        cases h
        exact ⟨rfl, fun _ => ⟨l, e, hstatus, firstNewer_eq_none.mp hnewer⟩⟩

/-- What there was of a copy is removed, or there was nothing. -/
inductive Clears (copy : Copy) (before : FileSystem) : FileSystem → Prop where
  | missing (h : before.pathExists copy.directory = false) : Clears copy before before
  | removed {after : FileSystem} (hthere : before.pathExists copy.directory = true)
      (h : before.removeTree copy.directory = (.ok (), after)) : Clears copy before after

theorem perform_discard_ok (h : copy.discard.perform w = (.ok (), w')) :
    copy.Clears w.files w'.files := by
  unfold discard at h
  obtain ⟨files, _, hfiles, h⟩ := perform_bind_ok.mp h
  cases hfiles
  cases hthere : w.files.pathExists copy.directory with
  | false =>
    simp only [hthere, Bool.false_eq_true, if_false] at h
    cases h
    exact .missing hthere
  | true =>
    simp only [hthere, if_true] at h
    obtain ⟨_, _, hlog, h⟩ := perform_bind_ok.mp h
    cases hlog
    exact .removed hthere (files_of_change_ok h)

/-- What is read and unpacked, archive after archive, into one directory. -/
inductive Adds (host : Host) (destination : Path) :
    List String → List ByteArray → FileSystem → FileSystem → Prop where
  | nil (fs : FileSystem) : Adds host destination [] [] fs fs
  | cons {name names content contents before between after}
      (hcontent : Artifact.Holds host.config before name content)
      (hunpack : host.unpacker content destination before = (.ok (), between))
      (hrest : Adds host destination names contents between after) :
      Adds host destination (name :: names) (content :: contents) before after

theorem unpackFile_ok {unpacker : Unpacker} {archive destination : Path} {fs after : FileSystem}
    (h : unpackFile unpacker archive destination fs = (.ok (), after)) :
    ∃ content, fs.readFile archive = .ok content ∧
      unpacker content destination fs = (.ok (), after) := by
  unfold unpackFile at h
  cases hread : fs.readFile archive with
  | ok content =>
    rw [hread] at h
    exact ⟨content, rfl, h⟩
  | error cause =>
    simp only [hread] at h
    split at h
    · rcases hprepare : Tar.prepare destination fs with ⟨outcome, between⟩
      cases outcome <;> simp [hprepare, Tar.Outcome.andThen] at h
    · cases h

theorem perform_addArtifact_ok {destination : Path} {name : String}
    (h : (addArtifact host destination name).perform w = (.ok (), w')) :
    ∃ content, Artifact.Holds host.config w.files name content ∧
      host.unpacker content destination w.files = (.ok (), w'.files) := by
  unfold addArtifact at h
  obtain ⟨files, _, hfiles, h⟩ := perform_bind_ok.mp h
  cases hfiles
  obtain ⟨archive, _, harchive, h⟩ := perform_bind_ok.mp h
  rw [perform_ofExcept, Prod.mk.injEq] at harchive
  obtain ⟨harchive, rfl⟩ := harchive
  obtain ⟨_, _, hlog, h⟩ := perform_bind_ok.mp h
  cases hlog
  obtain ⟨content, hread, hunpack⟩ := unpackFile_ok (files_of_change_ok h)
  exact ⟨content, ⟨archive, mapError_eq_ok.mp harchive, hread⟩, hunpack⟩

theorem perform_addArtifacts_ok {destination : Path} {names : List String}
    (h : (addArtifacts host destination names).perform w = (.ok (), w')) :
    ∃ contents, Adds host destination names contents w.files w'.files := by
  induction names generalizing w with
  | nil =>
    cases h
    exact ⟨[], .nil _⟩
  | cons name names ih =>
    rw [addArtifacts] at h
    obtain ⟨_, between, hfirst, h⟩ := perform_bind_ok.mp h
    obtain ⟨content, hcontent, hunpack⟩ := perform_addArtifact_ok hfirst
    obtain ⟨contents, hrest⟩ := ih h
    exact ⟨content :: contents, .cons hcontent hunpack hrest⟩

/-- What was there is cleared away, a directory is made in its place, and every archive is unpacked
into it. -/
def Renews (copy : Copy) (host : Host) (before after : FileSystem) : Prop :=
  ∃ cleared made contents, copy.Clears before cleared ∧
    cleared.makeDirectories copy.directory = (.ok (), made) ∧
    Adds host copy.directory copy.artifacts contents made after

theorem perform_renew_ok (h : (copy.renew host).perform w = (.ok (), w')) :
    copy.Renews host w.files w'.files := by
  unfold renew at h
  obtain ⟨_, cleared, hdiscard, h⟩ := perform_bind_ok.mp h
  obtain ⟨_, made, hmake, h⟩ := perform_bind_ok.mp h
  obtain ⟨contents, hadds⟩ := perform_addArtifacts_ok h
  exact ⟨cleared.files, made.files, contents, perform_discard_ok hdiscard,
    files_of_change_ok hmake, hadds⟩

/-- A fetch keeps a copy that looks current, or renews it. -/
theorem perform_ensureCurrent_ok {outcome : Outcome}
    (h : (copy.ensureCurrent host).perform w = (.ok outcome, w')) :
    (outcome = .kept ∧ w'.files = w.files ∧ copy.LooksCurrent host.config w.files) ∨
      (outcome = .renewed ∧ copy.Renews host w.files w'.files) := by
  unfold ensureCurrent at h
  obtain ⟨stale, asked, hstale, h⟩ := perform_bind_ok.mp h
  obtain ⟨hfiles, hcurrent⟩ := perform_isStale_ok hstale
  cases stale with
  | false =>
    cases h
    exact .inl ⟨rfl, hfiles, hcurrent rfl⟩
  | true =>
    obtain ⟨_, _, hrenew, h⟩ := perform_bind_ok.mp h
    cases h
    rw [← hfiles]
    exact .inr ⟨rfl, perform_renew_ok hrenew⟩

end Copy

end Launchpad
