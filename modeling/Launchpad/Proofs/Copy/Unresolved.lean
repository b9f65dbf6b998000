import Launchpad.Proofs.Copy.Runs
import Mathlib

/-!
What a fetch does when one of its artifacts cannot be found. The question whether the copy is stale
goes through the artifacts in order and stops at the first that is newer than the copy; an artifact
behind that one is looked for only once the copy was thrown away. So the copy outlives a name that
leads to nothing exactly when the question gets as far as that name.
-/

namespace Launchpad

open Results

namespace Artifact

variable {c : Config} {fs gs : FileSystem} {name : String} {failure failure' : Failure}

/-- The first of some names that leads nowhere, with those in front of it. -/
structure FirstUnresolved (c : Config) (fs : FileSystem) (names before : List String)
    (bad : String) (failure : Failure) : Prop where
  listed : ∃ after, names = before ++ bad :: after
  found : ∀ name ∈ before, ∃ path, locate c fs name = .ok path
  unresolved : locate c fs bad = .error failure

theorem exists_firstUnresolved {names : List String}
    (h : ∃ name ∈ names, ∃ failure, locate c fs name = .error failure) :
    ∃ before bad failure, FirstUnresolved c fs names before bad failure := by
  induction names with
  | nil => simp at h
  | cons name rest ih =>
    cases hname : locate c fs name with
    | error failure => exact ⟨[], name, failure, ⟨rest, rfl⟩, List.forall_mem_nil _, hname⟩
    | ok path =>
      have hrest : ∃ name ∈ rest, ∃ failure, locate c fs name = .error failure := by
        obtain ⟨other, hother, failure, hfailure⟩ := h
        rcases List.mem_cons.mp hother with rfl | hother
        · rw [hname] at hfailure
          cases hfailure
        · exact ⟨other, hother, failure, hfailure⟩
      obtain ⟨before, bad, failure, ⟨after, rfl⟩, hfound, hbad⟩ := ih hrest
      exact ⟨name :: before, bad, failure, ⟨after, rfl⟩,
        List.forall_mem_cons.mpr ⟨⟨path, hname⟩, hfound⟩, hbad⟩

/-- Two failures to find an artifact are the same, since both speak only of its name and of the path
that the configuration gives it. -/
theorem locate_error_unique (h : locate c fs name = .error failure)
    (h' : locate c gs name = .error failure') : failure' = failure := by
  unfold locate at h h'
  cases hlookup : c.artifacts.lookup name with
  | none =>
    rw [hlookup] at h h'
    cases h
    cases h'
    rfl
  | some relative =>
    simp only [hlookup] at h h'
    split at h
    · cases h
    · split at h'
      · cases h'
      · cases h
        cases h'
        rfl

theorem modified_of_unresolved (h : locate c fs name = .error failure) :
    modified c fs name = .error failure := by
  rw [modified, h]
  rfl

/-- What can be found has a date. -/
theorem exists_modified {path : Path} (h : locate c fs name = .ok path) :
    ∃ date, modified c fs name = .ok date := by
  obtain ⟨relative, -, rfl, hthere⟩ := locate_eq_ok.mp h
  obtain ⟨l, e, hstatus⟩ := FileSystem.pathExists_eq_true_iff.mp hthere
  exact ⟨e.modified, modified_eq_ok.mpr ⟨_, l, e, h, hstatus, rfl⟩⟩

end Artifact

namespace Copy

open Launchpad.Action

variable {copy : Copy} {host : Host} {w w' : World} {failure : Failure}

/-! ### How far the question of staleness gets -/

section Newer

variable {dated : String → Except Failure Timestamp} {moment : Timestamp}
  {before : List String}

/-- The search for something newer goes on behind artifacts that are not. -/
theorem firstNewer_append (rest : List String)
    (h : ∀ name ∈ before, ∃ date, dated name = .ok date ∧ ¬moment < date) :
    firstNewer dated moment (before ++ rest) = firstNewer dated moment rest := by
  induction before with
  | nil => rfl
  | cons name more ih =>
    obtain ⟨⟨date, hdate, hold⟩, hmore⟩ := List.forall_mem_cons.mp h
    rw [List.cons_append, firstNewer, hdate]
    simp only [hold, if_false]
    exact ih hmore

/-- The search ends at an artifact that is newer, whatever stands behind it. -/
theorem firstNewer_eq_some (rest : List String)
    (hdated : ∀ name ∈ before, ∃ date, dated name = .ok date)
    (hnewer : ∃ name ∈ before, ∃ date, dated name = .ok date ∧ moment < date) :
    ∃ name ∈ before, firstNewer dated moment (before ++ rest) = .ok (some name) := by
  induction before with
  | nil => simp at hnewer
  | cons name more ih =>
    obtain ⟨⟨date, hdate⟩, hmore⟩ := List.forall_mem_cons.mp hdated
    rw [List.cons_append, firstNewer, hdate]
    by_cases hlater : moment < date
    · exact ⟨name, List.mem_cons_self, by simp [hlater]⟩
    · have hbehind : ∃ other ∈ more, ∃ date, dated other = .ok date ∧ moment < date := by
        obtain ⟨other, hother, date', hdate', hlater'⟩ := hnewer
        rcases List.mem_cons.mp hother with rfl | hother
        · rw [hdate] at hdate'
          cases hdate'
          exact absurd hlater' hlater
        · exact ⟨other, hother, date', hdate', hlater'⟩
      obtain ⟨other, hother, hfirst⟩ := ih hmore hbehind
      exact ⟨other, List.mem_cons_of_mem name hother, by simpa [hlater] using hfirst⟩

end Newer

/-- The copy is there, and none of some artifacts is newer. -/
def IsUpTo (copy : Copy) (c : Config) (files : FileSystem) (names : List String) : Prop :=
  ∃ l e, files.status copy.directory = .ok (l, e) ∧
    ∀ name ∈ names, ∀ date, Artifact.modified c files name = .ok date → ¬e.modified < date

/-- When some artifact is newer, or there is no copy, the copy is taken to be stale without a look
at the artifacts behind. -/
theorem perform_isStale_of_not_isUpTo {c : Config} {before rest : List String}
    (hlist : copy.artifacts = before ++ rest)
    (hfound : ∀ name ∈ before, ∃ path, Artifact.locate c w.files name = .ok path)
    (h : ¬copy.IsUpTo c w.files before) :
    ∃ entry, (copy.isStale c).perform w = (.ok true, w.record (.logged entry)) := by
  cases hstatus : w.files.status copy.directory with
  | error cause =>
    refine perform_isStale_missing ?_
    rw [FileSystem.pathExists, hstatus]
    rfl
  | ok there =>
    obtain ⟨l, e⟩ := there
    have hdated : ∀ name ∈ before, ∃ date, Artifact.modified c w.files name = .ok date := by
      intro name hname
      obtain ⟨path, hpath⟩ := hfound name hname
      exact Artifact.exists_modified hpath
    have hnewer : ∃ name ∈ before, ∃ date,
        Artifact.modified c w.files name = .ok date ∧ e.modified < date := by
      by_contra hnone
      refine h ⟨l, e, hstatus, fun name hname date hdate hlater => hnone ?_⟩
      exact ⟨name, hname, date, hdate, hlater⟩
    obtain ⟨name, -, hfirst⟩ := firstNewer_eq_some rest hdated hnewer
    rw [perform_isStale_there hstatus, hlist, hfirst]
    exact ⟨_, rfl⟩

/-- When no artifact in front is newer than the copy, the one that leads nowhere is come upon. -/
theorem perform_isStale_of_isUpTo {c : Config} {before after : List String} {bad : String}
    (hlist : copy.artifacts = before ++ bad :: after)
    (hfound : ∀ name ∈ before, ∃ path, Artifact.locate c w.files name = .ok path)
    (hbad : Artifact.locate c w.files bad = .error failure) (h : copy.IsUpTo c w.files before) :
    (copy.isStale c).perform w = (.error failure, w) := by
  obtain ⟨l, e, hstatus, hold⟩ := h
  have hdated : ∀ name ∈ before,
      ∃ date, Artifact.modified c w.files name = .ok date ∧ ¬e.modified < date := by
    intro name hname
    obtain ⟨path, hpath⟩ := hfound name hname
    obtain ⟨date, hdate⟩ := Artifact.exists_modified hpath
    exact ⟨date, hdate, hold name hname date hdate⟩
  rw [perform_isStale_there hstatus, hlist, firstNewer_append _ hdated, firstNewer,
    Artifact.modified_of_unresolved hbad]

/-! ### What a renewal does up to an artifact that leads nowhere -/

theorem perform_discard_of_clears {cleared : FileSystem} (h : copy.Clears w.files cleared) :
    ∃ w', copy.discard.perform w = (.ok (), w') ∧ w'.files = cleared := by
  unfold discard
  cases h with
  | missing hmissing =>
    simp only [perform_bind, perform_files, hmissing, Bool.false_eq_true, if_false]
    exact ⟨w, rfl, rfl⟩
  | removed hthere hremoved =>
    simp only [perform_bind, perform_files, hthere, if_true, perform_log, perform_change,
      World.record, hremoved]
    exact ⟨_, rfl, rfl⟩

theorem unpackFile_of_readFile {unpacker : Unpacker} {archive destination : Path}
    {fs : FileSystem} {content : ByteArray} (h : fs.readFile archive = .ok content) :
    unpackFile unpacker archive destination fs = unpacker content destination fs := by
  rw [unpackFile, h]

theorem perform_addArtifact_of_holds {destination : Path} {name : String} {content : ByteArray}
    {after : FileSystem} (hcontent : Artifact.Holds host.config w.files name content)
    (hunpack : host.unpacker content destination w.files = (.ok (), after)) :
    ∃ w', (addArtifact host destination name).perform w = (.ok (), w') ∧ w'.files = after := by
  obtain ⟨archive, harchive, hread⟩ := hcontent
  have hunpacked : unpackFile host.unpacker archive destination w.files = (.ok (), after) :=
    (unpackFile_of_readFile hread).trans hunpack
  unfold addArtifact extract
  simp only [perform_bind, perform_files, harchive, perform_ofExcept, mapError_id, perform_log,
    perform_change, World.record, hunpacked]
  exact ⟨_, rfl, rfl⟩

theorem perform_addArtifact_of_unresolved {destination : Path} {name : String}
    (h : Artifact.locate host.config w.files name = .error failure) :
    (addArtifact host destination name).perform w = (.error failure, w) := by
  unfold addArtifact
  simp only [perform_bind, perform_files, h, perform_ofExcept, mapError_id]

theorem perform_addArtifacts_of_adds {destination : Path} {names : List String}
    {contents : List ByteArray} {before after : FileSystem}
    (h : Adds host destination names contents before after) (hfiles : w.files = before) :
    ∃ w', (addArtifacts host destination names).perform w = (.ok (), w') ∧ w'.files = after := by
  induction h generalizing w with
  | nil => exact ⟨w, rfl, hfiles⟩
  | cons hcontent hunpack _ ih =>
    subst hfiles
    obtain ⟨between, hfirst, hbetween⟩ := perform_addArtifact_of_holds hcontent hunpack
    obtain ⟨w', hmore, hafter⟩ := ih hbetween
    refine ⟨w', ?_, hafter⟩
    rw [addArtifacts, perform_bind, hfirst]
    exact hmore

theorem addArtifacts_append (destination : Path) (before rest : List String) :
    addArtifacts host destination (before ++ rest) =
      (do addArtifacts host destination before; addArtifacts host destination rest) := by
  induction before with
  | nil => simp [addArtifacts]
  | cons name more ih => simp [addArtifacts, ih]

theorem Adds.split {destination : Path} {before rest : List String} {contents : List ByteArray}
    {fs after : FileSystem} (h : Adds host destination (before ++ rest) contents fs after) :
    ∃ front back between, Adds host destination before front fs between ∧
      Adds host destination rest back between after := by
  induction before generalizing contents fs with
  | nil => exact ⟨[], contents, fs, .nil fs, h⟩
  | cons name more ih =>
    cases h with
    | cons hcontent hunpack hrest =>
      obtain ⟨front, back, between, hfront, hback⟩ := ih hrest
      exact ⟨_, back, between, .cons hcontent hunpack hfront, hback⟩

/-- The copy with only some of its artifacts. -/
def only (copy : Copy) (names : List String) : Copy :=
  { copy with artifacts := names }

theorem clears_only {names : List String} {before cleared : FileSystem} :
    (copy.only names).Clears before cleared ↔ copy.Clears before cleared := by
  constructor
  · rintro (h | ⟨hthere, h⟩)
    · exact .missing h
    · exact .removed hthere h
  · rintro (h | ⟨hthere, h⟩)
    · exact .missing h
    · exact .removed hthere h

/-- A renewal gets as far as the first artifact that leads nowhere once its turn has come. -/
theorem perform_renew_of_unresolved {before after : List String} {bad : String}
    {between : FileSystem} (hlist : copy.artifacts = before ++ bad :: after)
    (hrenews : (copy.only before).Renews host w.files between)
    (hbad : Artifact.locate host.config between bad = .error failure) :
    ∃ w', (copy.renew host).perform w = (.error failure, w') ∧ w'.files = between := by
  obtain ⟨cleared, made, contents, hclears, hmade, hadds⟩ := hrenews
  obtain ⟨w₁, hdiscard, rfl⟩ := perform_discard_of_clears (clears_only.mp hclears)
  obtain ⟨w₂, hadd, rfl⟩ := perform_addArtifacts_of_adds (w := { w₁ with files := made }) hadds rfl
  have hmake : (Action.change (·.makeDirectories copy.directory)
      (.io .creatingDirectory copy.directory)).perform w₁ = (.ok (), { w₁ with files := made }) :=
    perform_change_ok _ hmade
  have hstop : (addArtifacts host copy.directory (bad :: after)).perform w₂ =
      (.error failure, w₂) := by
    rw [addArtifacts, perform_bind, perform_addArtifact_of_unresolved hbad]
  refine ⟨w₂, ?_, rfl⟩
  rw [renew]
  refine perform_bind_error.mpr (.inr ⟨(), w₁, hdiscard, ?_⟩)
  refine perform_bind_error.mpr (.inr ⟨(), _, hmake, ?_⟩)
  rw [hlist, addArtifacts_append]
  exact perform_bind_error.mpr (.inr ⟨(), w₂, hadd, hstop⟩)

/-- A renewal that succeeds has found every artifact when its turn came. -/
theorem Renews.split {before after : List String} {bad : String} {fs renewed : FileSystem}
    (hlist : copy.artifacts = before ++ bad :: after) (h : copy.Renews host fs renewed) :
    ∃ between path, (copy.only before).Renews host fs between ∧
      Artifact.locate host.config between bad = .ok path := by
  obtain ⟨cleared, made, contents, hclears, hmade, hadds⟩ := h
  rw [hlist] at hadds
  obtain ⟨front, back, between, hfront, hback⟩ := hadds.split
  cases hback with
  | cons hcontent =>
    obtain ⟨path, hpath, -⟩ := hcontent
    exact ⟨between, path, ⟨cleared, made, front, clears_only.mpr hclears, hmade, hfront⟩, hpath⟩

/-! ### The whole fetch -/

theorem perform_ensureCurrent_of_stale {asked : World}
    (h : (copy.isStale host.config).perform w = (.ok true, asked)) :
    (copy.ensureCurrent host).perform w =
      match (copy.renew host).perform asked with
      | (.ok _, w') => (.ok .renewed, w')
      | (.error failure, w') => (.error failure, w') := by
  rw [ensureCurrent, perform_bind, h]
  simp only [if_true]
  rw [perform_bind]
  rcases (copy.renew host).perform asked with ⟨outcome, w'⟩
  cases outcome <;> rfl

theorem perform_ensureCurrent_of_isStale_error
    (h : (copy.isStale host.config).perform w = (.error failure, w')) :
    (copy.ensureCurrent host).perform w = (.error failure, w') := by
  rw [ensureCurrent, perform_bind, h]

/-- A fetch with an artifact that leads nowhere. If there is a copy, and no artifact in front of the
first such one is newer, the fetch fails for it and does nothing at all. Otherwise the copy is made
anew without a look at it: it is never kept, and if everything goes well until its turn has come,
the fetch goes on if by then it leads somewhere, and else fails for it and leaves what was done. -/
theorem fetch_with_unresolved (copy : Copy) (host : Host) (w : World)
    (h : ∃ name ∈ copy.artifacts, ∃ failure,
      Artifact.locate host.config w.files name = .error failure) :
    ∃ before bad failure,
      Artifact.FirstUnresolved host.config w.files copy.artifacts before bad failure ∧
      Artifact.IsUnresolved bad failure ∧
      (copy.IsUpTo host.config w.files before →
        (copy.ensureCurrent host).perform w = (.error failure, w)) ∧
      (¬copy.IsUpTo host.config w.files before →
        ((copy.ensureCurrent host).perform w).1 ≠ .ok .kept ∧
        (∀ between, (copy.only before).Renews host w.files between →
          (∃ failure', Artifact.locate host.config between bad = .error failure') →
          ((copy.ensureCurrent host).perform w).1 = .error failure ∧
            ((copy.ensureCurrent host).perform w).2.files = between) ∧
        (((copy.ensureCurrent host).perform w).1 = .ok .renewed →
          ∃ between path, (copy.only before).Renews host w.files between ∧
            Artifact.locate host.config between bad = .ok path)) := by
  obtain ⟨before, bad, failure, hfirst⟩ := Artifact.exists_firstUnresolved h
  obtain ⟨⟨after, hlist⟩, hfound, hbad⟩ := hfirst
  refine ⟨before, bad, failure, ⟨⟨after, hlist⟩, hfound, hbad⟩,
    Artifact.isUnresolved_of_locate hbad, fun hupTo => ?_, fun hupTo => ?_⟩
  · exact perform_ensureCurrent_of_isStale_error (perform_isStale_of_isUpTo hlist hfound hbad hupTo)
  · obtain ⟨entry, hstale⟩ := perform_isStale_of_not_isUpTo hlist hfound hupTo
    have hfetch := perform_ensureCurrent_of_stale hstale
    refine ⟨?_, ?_, ?_⟩
    · rw [hfetch]
      rcases (copy.renew host).perform (w.record (.logged entry)) with ⟨outcome, w'⟩
      cases outcome <;> simp
    · -- What is said of the artifact when its turn has come is what would have been said at first.
      rintro between hrenews ⟨failure', hfailure'⟩
      have hsame := Artifact.locate_error_unique hbad hfailure'
      subst hsame
      obtain ⟨w', hrenew, hfiles⟩ :=
        perform_renew_of_unresolved (w := w.record (.logged entry)) hlist hrenews hfailure'
      rw [hfetch, hrenew]
      exact ⟨rfl, hfiles⟩
    · intro hrenewed
      obtain ⟨houtcome, -⟩ | ⟨-, hrenews⟩ := perform_ensureCurrent_ok (Prod.ext hrenewed rfl)
      · cases houtcome
      · exact hrenews.split hlist

/-- A stale copy that can be cleared away, made and filled is renewed. -/
theorem exists_renewed {copy : Copy} {host : Host} {w asked : World} {after : FileSystem}
    (hstale : (copy.isStale host.config).perform w = (.ok true, asked))
    (h : copy.Renews host asked.files after) :
    ∃ w', (copy.ensureCurrent host).perform w = (.ok .renewed, w') ∧ w'.files = after := by
  obtain ⟨cleared, made, contents, hclears, hmade, hadds⟩ := h
  obtain ⟨w₁, hdiscard, rfl⟩ := perform_discard_of_clears hclears
  obtain ⟨w₂, hadd, rfl⟩ := perform_addArtifacts_of_adds (w := { w₁ with files := made }) hadds rfl
  have hmake : (Action.change (·.makeDirectories copy.directory)
      (.io .creatingDirectory copy.directory)).perform w₁ = (.ok (), { w₁ with files := made }) :=
    perform_change_ok _ hmade
  have hrenew : (copy.renew host).perform asked = (.ok (), w₂) := by
    rw [renew, perform_bind, hdiscard]
    simp only
    rw [perform_bind, hmake]
    exact hadd
  refine ⟨w₂, ?_, rfl⟩
  rw [perform_ensureCurrent_of_stale hstale, hrenew]

/-! ### A stale copy with an artifact that nothing is known of -/

/-- The tree that a path names, if it names any. -/
def treeOf? (files : FileSystem) (p : Path) : Option Tree :=
  (files.status p).toOption.map fun found => files.treeAt found.1

/-- With an artifact that leads nowhere, a fetch fails for such an artifact, and the tree of the
copy stays as it was. -/
def IsSpared (copy : Copy) (host : Host) (w : World) : Prop :=
  (∃ name ∈ copy.artifacts, ∃ failure,
    Artifact.locate host.config w.files name = .error failure) →
  ∃ name ∈ copy.artifacts, ∃ failure w', Artifact.IsUnresolved name failure ∧
    (copy.ensureCurrent host).perform w = (.error failure, w') ∧
    treeOf? w'.files copy.directory = treeOf? w.files copy.directory

def oneArtifactHost : Host :=
  { config := { artifacts := [("A", .ofText "x.tar")] }
    executor := ⟨fun _ _ w => ⟨.ok (0, ""), w.files, []⟩⟩
    arch := .standard }

/-- A copy of it with a file in it, and another artifact that nothing is known of. -/
def half : Copy := ⟨.ofText "d", ["A", "B"]⟩

/-- The copy and the artifact, which was changed at some moment. -/
def copyBeside (changed : Timestamp) : World :=
  { files :=
      { entries :=
          [([], ⟨0, .directory, directoryMode, ⟨1⟩⟩),
            (.ofTexts ["d"], ⟨1, .directory, directoryMode, ⟨1⟩⟩),
            (.ofTexts ["d", "keep.js"], ⟨2, .file ByteArray.empty, fileMode, ⟨1⟩⟩),
            (.ofTexts ["x.tar"], ⟨3, .file ByteArray.empty, fileMode, changed⟩)]
        nextSerial := 4
        now := ⟨10⟩
        here := [] } }

theorem locate_half (changed : Timestamp) :
    Artifact.locate oneArtifactHost.config (copyBeside changed).files "B" =
      .error (.unknownArtifact "B") := by
  cbv

theorem exists_unresolved_half (changed : Timestamp) :
    ∃ name ∈ half.artifacts, ∃ failure,
      Artifact.locate oneArtifactHost.config (copyBeside changed).files name = .error failure :=
  ⟨"B", by decide, _, locate_half changed⟩

/-- The artifact that nothing is known of is the first that leads nowhere. -/
theorem eq_of_firstUnresolved_half {changed : Timestamp} {before : List String} {bad : String}
    {failure : Failure} (h : Artifact.FirstUnresolved oneArtifactHost.config
      (copyBeside changed).files half.artifacts before bad failure) :
    before = ["A"] ∧ bad = "B" := by
  obtain ⟨⟨after, hlist⟩, -, hbad⟩ := h
  have hA : Artifact.locate oneArtifactHost.config (copyBeside changed).files "A" =
      .ok (.ofText "./x.tar") := by
    cbv
  change ["A", "B"] = _ at hlist
  rcases before with _ | ⟨name, _ | ⟨other, more⟩⟩
  · cases hlist
    cases hA.symm.trans hbad
  · cases hlist
    exact ⟨rfl, rfl⟩
  · simp at hlist

/-- The copy made anew, with nothing in it. -/
def remadeBeside : FileSystem :=
  { entries :=
      [(.ofTexts ["d"], ⟨4, .directory, directoryMode, ⟨1010⟩⟩),
        ([], ⟨0, .directory, directoryMode, ⟨1010⟩⟩),
        (.ofTexts ["x.tar"], ⟨3, .file ByteArray.empty, fileMode, ⟨2⟩⟩)]
    nextSerial := 5
    now := ⟨2010⟩
    here := [] }

theorem renews_beside_newer_artifact :
    (half.only ["A"]).Renews oneArtifactHost (copyBeside ⟨2⟩).files remadeBeside := by
  have hthere : (copyBeside ⟨2⟩).files.pathExists half.directory = true := by
    cbv
  obtain ⟨cleared, hremoved, hmade⟩ : ∃ cleared,
      (copyBeside ⟨2⟩).files.removeTree half.directory = (.ok (), cleared) ∧
        cleared.makeDirectories half.directory = (.ok (), remadeBeside) :=
    ⟨(copyBeside ⟨2⟩).files.remove (.ofTexts ["d"]), by cbv, by cbv⟩
  have hholds : Artifact.Holds oneArtifactHost.config remadeBeside "A" ByteArray.empty :=
    ⟨.ofText "./x.tar", by cbv, by cbv⟩
  have hunpack : oneArtifactHost.unpacker ByteArray.empty half.directory remadeBeside =
      (.ok (), remadeBeside) := by
    cbv
  exact ⟨cleared, remadeBeside, _, .removed hthere hremoved, hmade, .cons hholds hunpack (.nil _)⟩

/-- As long as the first artifact is no newer than the copy, the fetch fails for the second and does
nothing. If it is newer, the fetch fails for the second when the copy is gone. -/
theorem fetch_beside_older_artifact :
    (∃ name ∈ half.artifacts, ∃ failure,
      Artifact.locate oneArtifactHost.config (copyBeside ⟨1⟩).files name = .error failure) ∧
    (∃ failure, (half.ensureCurrent oneArtifactHost).perform (copyBeside ⟨1⟩) =
      (.error failure, copyBeside ⟨1⟩)) ∧
    (∃ name ∈ half.artifacts, ∃ failure,
      Artifact.locate oneArtifactHost.config (copyBeside ⟨2⟩).files name = .error failure) ∧
    ∃ failure, ((half.ensureCurrent oneArtifactHost).perform (copyBeside ⟨2⟩)).1 =
        .error failure ∧
      ((half.ensureCurrent oneArtifactHost).perform (copyBeside ⟨2⟩)).2.files = remadeBeside := by
  have hbad := exists_unresolved_half ⟨1⟩
  have hbad' := exists_unresolved_half ⟨2⟩
  refine ⟨hbad, ?_, hbad', ?_⟩
  · obtain ⟨before, bad, failure, hfirst, -, hkept, -⟩ :=
      fetch_with_unresolved half oneArtifactHost (copyBeside ⟨1⟩) hbad
    obtain ⟨rfl, rfl⟩ := eq_of_firstUnresolved_half hfirst
    have hstatus : (copyBeside ⟨1⟩).files.status half.directory =
        .ok (.ofTexts ["d"], ⟨1, .directory, directoryMode, ⟨1⟩⟩) := by
      cbv
    have hA : Artifact.modified oneArtifactHost.config (copyBeside ⟨1⟩).files "A" = .ok ⟨1⟩ := by
      cbv
    refine ⟨failure, hkept ⟨_, _, hstatus, fun name hname date hdate => ?_⟩⟩
    rw [List.mem_singleton.mp hname, hA] at hdate
    cases hdate
    decide
  · obtain ⟨before, bad, failure, hfirst, -, -, hlost⟩ :=
      fetch_with_unresolved half oneArtifactHost (copyBeside ⟨2⟩) hbad'
    obtain ⟨rfl, rfl⟩ := eq_of_firstUnresolved_half hfirst
    have hstatus : (copyBeside ⟨2⟩).files.status half.directory =
        .ok (.ofTexts ["d"], ⟨1, .directory, directoryMode, ⟨1⟩⟩) := by
      cbv
    have hA : Artifact.modified oneArtifactHost.config (copyBeside ⟨2⟩).files "A" = .ok ⟨2⟩ := by
      cbv
    have hnewer : ¬half.IsUpTo oneArtifactHost.config (copyBeside ⟨2⟩).files ["A"] := by
      rintro ⟨l, e, hstatus', hold⟩
      cases hstatus.symm.trans hstatus'
      exact hold "A" (List.mem_singleton_self _) _ hA (by decide)
    have hgone : Artifact.locate oneArtifactHost.config remadeBeside "B" =
        .error (.unknownArtifact "B") := by
      cbv
    exact ⟨failure, (hlost hnewer).2.1 _ renews_beside_newer_artifact ⟨_, hgone⟩⟩

/-- An artifact that is newer than the copy costs the copy its files, although the next artifact
leads nowhere. -/
theorem not_isSpared_of_stale : ¬half.IsSpared oneArtifactHost (copyBeside ⟨2⟩) := by
  intro h
  obtain ⟨name, -, failure, w', -, hfetch, htree⟩ := h ⟨"B", by decide, _, locate_half ⟨2⟩⟩
  have hthere : (treeOf? (copyBeside ⟨2⟩).files half.directory).map (· (.ofTexts ["keep.js"])) =
      some (some (.file ByteArray.empty)) := by
    cbv
  have hlost : (treeOf? ((half.ensureCurrent oneArtifactHost).perform (copyBeside ⟨2⟩)).2.files
      half.directory).map (· (.ofTexts ["keep.js"])) = some none := by
    cbv
  rw [hfetch, htree, hthere] at hlost
  cases hlost

end Copy

end Launchpad
