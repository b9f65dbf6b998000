import Launchpad.Proofs.Copy.Coherence
import Launchpad.Proofs.Copy.Unresolved
import Launchpad.Proofs.Tar.Unpacking

/-!
A fetched copy is current, over whole runs. The path of a copy may climb only if making its directory
makes an empty one all the same; where it climbs out of a missing directory it does not.
-/

namespace Launchpad

namespace Copy

/-- After every fetch of every run the copy holds what its archives, as they are then, unpack to in
an empty directory: whether the fetch kept the copy or renewed it, and whatever happened before. -/
theorem isCurrent_after_every_fetch {copy : Copy} {host : Host} {admitted : ByteArray → Prop}
    {effect : ByteArray → Tree → Tree} {top : Location} {w₀ w w' : World} {moment : Timestamp}
    {outcome : Outcome} (hlawful : host.unpacker.Lawful copy.directory admitted effect)
    (hstarts : copy.Starts host.config top w₀.files)
    (hopens : copy.directory.climbs = true → copy.OpensEmpty top w₀.files)
    (hrun : Run copy host admitted top w₀ w) (hlater : w.files.now < moment)
    (hfetch : (copy.ensureCurrent host).perform (w.until moment) = (.ok outcome, w'))
    (hkind : copy.HoldsOnly host.config admitted w'.files) :
    copy.IsCurrent host.config effect w'.files := by
  have hempty : copy.OpensEmpty top w₀.files := by
    cases hclimbs : copy.directory.climbs with
    | false => exact hstarts.opensEmpty hclimbs
    | true => exact hopens hclimbs
  have hstart : Vacant copy top w₀.files w₀.files :=
    ⟨hstarts.wellFormed, .refl _, fun hmade hbelow => (hempty hmade hbelow).1, .inl (.refl _)⟩
  have hcoherent := Coherent.run hlawful hstarts hempty hrun (.vacant hstart)
  have hwaited := hcoherent.of_touches hstarts.archives
    (touches_until top w.files.now moment w.files)
  exact (hwaited.fetched (w := w.until moment) hlawful hstarts hempty hlater hfetch hkind).2

/-! ### A copy of an archive that changes -/

open Tar (archiveOf isOfFiles_archiveOf)

def single (directory : String) : Copy := ⟨.ofText directory, ["A"]⟩

/-- The archive, in a root directory that was changed at some moment. -/
def archiveRow (root changed : Int) (archive : ByteArray) : List (Location × Entry) :=
  [([], ⟨0, .directory, directoryMode, ⟨root⟩⟩),
    (.ofTexts ["x.tar"], ⟨1, .file archive, fileMode, ⟨changed⟩⟩)]

def archiveAlone (root changed now : Int) (serial : Nat) (archive : ByteArray) : FileSystem :=
  ⟨archiveRow root changed archive, serial, ⟨now⟩, []⟩

/-- When a copy was made, with which number, and when the archive beside it was changed. -/
structure Making where
  made : Int
  serial : Nat
  changed : Int

/-- The archive beside the copy `a`, which was just made. -/
def besideMade (m : Making) (archive : ByteArray) : FileSystem :=
  { entries := (.ofTexts ["a"], ⟨m.serial, .directory, directoryMode, ⟨m.made⟩⟩) ::
      archiveRow m.made m.changed archive
    nextSerial := m.serial + 1
    now := ⟨m.made + 1000⟩
    here := [] }

/-- The archive beside the copy once a file was unpacked into it. -/
def besideFilled (m : Making) (content archive : ByteArray) : FileSystem :=
  { entries :=
      [(.ofTexts ["a", "f"], ⟨m.serial + 1, .file content, 0o644, ⟨1000000000⟩⟩),
        (.ofTexts ["a"], ⟨m.serial, .directory, directoryMode, ⟨m.made + 1000⟩⟩)] ++
      archiveRow m.made m.changed archive
    nextSerial := m.serial + 2
    now := ⟨m.made + 2000⟩
    here := [] }

def firstMaking : Making := ⟨1000000, 2, 0⟩

def secondMaking : Making := ⟨3001000, 4, 2000000⟩

/-- What stands once the copy was filled, and the archive was replaced some time later. -/
def replacedOnce (journal : List Event) (old archive new : ByteArray) : World :=
  let fetched : World := ⟨besideFilled firstMaking old archive, journal⟩
  ⟨(fetched.until ⟨2000000⟩).files.rewrite 1 new, journal⟩

/-- Where the archive stands beside a new copy, this is filled with what the archive holds. -/
theorem adds_besideMade {m : Making} {content : ByteArray} (hsize : content.size = 3)
    (hmember : ∀ archive : ByteArray, Tar.unpackMember (.ofTexts ["a"])
      (Tar.threeBytes.member content) (besideMade m archive) =
        (.ok (), besideFilled m content archive)) :
    Adds oneArtifactHost (single "a").directory ["A"] [archiveOf content]
      (besideMade m (archiveOf content)) (besideFilled m content (archiveOf content)) := by
  have hholds : ∀ archive : ByteArray, Artifact.Holds oneArtifactHost.config
      (besideMade m archive) "A" archive := fun archive =>
    ⟨.ofText "./x.tar", by cbv, by cbv⟩
  have hleads : ∀ archive : ByteArray, (besideMade m archive).IsDirectoryAt
      (single "a").directory (.ofTexts ["a"]) := fun archive =>
    ⟨⟨m.serial, .directory, directoryMode, ⟨m.made⟩⟩, by cbv, rfl⟩
  exact .cons (hholds _) (Tar.tar_archiveOf hsize (hleads _) (hmember _)) (.nil _)

theorem holdsOnly_besideFilled {m : Making} {content : ByteArray} (hsize : content.size = 3) :
    (single "a").HoldsOnly oneArtifactHost.config (fun content => (Tar.read content).IsOfFiles)
      (besideFilled m content (archiveOf content)) := by
  intro name held hname hheld
  obtain rfl := List.mem_singleton.mp hname
  have hholds : ∀ archive : ByteArray, Artifact.Holds oneArtifactHost.config
      (besideFilled m content archive) "A" archive := fun archive =>
    ⟨.ofText "./x.tar", by cbv, by cbv⟩
  rw [hheld.unique (hholds _)]
  exact isOfFiles_archiveOf hsize

/-- Where the copy is stale and nothing but the archive is left once it is cleared away, it is made
and filled. -/
theorem exists_filled (root : Int) {w : World} {m : Making} {content : ByteArray}
    (hsize : content.size = 3)
    (hstale : (((single "a").isStale oneArtifactHost.config).perform w).map id World.files =
      (.ok true, w.files))
    (hclears : (single "a").Clears w.files
      (archiveAlone root m.changed m.made m.serial (archiveOf content)))
    (hmember : ∀ archive : ByteArray, Tar.unpackMember (.ofTexts ["a"])
      (Tar.threeBytes.member content) (besideMade m archive) =
        (.ok (), besideFilled m content archive)) :
    ∃ w', ((single "a").ensureCurrent oneArtifactHost).perform w = (.ok .renewed, w') ∧
      w'.files = besideFilled m content (archiveOf content) := by
  obtain ⟨hasked, hfiles⟩ := Prod.ext_iff.mp hstale
  have hsame : (((single "a").isStale oneArtifactHost.config).perform w).2.files = w.files := hfiles
  have hmade : ∀ archive : ByteArray,
      (archiveAlone root m.changed m.made m.serial archive).makeDirectories
        (single "a").directory = (.ok (), besideMade m archive) := fun archive => by
    cbv
  exact exists_renewed (Prod.ext hasked rfl)
    ⟨_, _, _, hsame.symm ▸ hclears, hmade _, adds_besideMade hsize hmember⟩

/-- The first fetch makes the copy, and the file holds what the archive holds. -/
theorem exists_filled_first {old : ByteArray} (hsize : old.size = 3) :
    ∃ w, ((single "a").ensureCurrent oneArtifactHost).perform
        (World.until ⟨archiveAlone 0 0 0 2 (archiveOf old), []⟩ ⟨1000000⟩) = (.ok .renewed, w) ∧
      w.files = besideFilled firstMaking old (archiveOf old) := by
  refine exists_filled 0 hsize ?_ (.missing ?_) fun archive => ?_
  · generalize archiveOf old = archive
    cbv
  · generalize archiveOf old = archive
    cbv
  · rw [Tar.unpackMember_threeBytes]
    cbv

/-- The next fetch clears the copy away and makes another, whose file holds what the archive holds
by then. -/
theorem exists_filled_again (old : ByteArray) {new : ByteArray} (hsize : new.size = 3)
    (journal : List Event) :
    ∃ w, ((single "a").ensureCurrent oneArtifactHost).perform
        ((replacedOnce journal old (archiveOf old) (archiveOf new)).until ⟨3000000⟩) =
          (.ok .renewed, w) ∧
      w.files = besideFilled secondMaking new (archiveOf new) := by
  refine exists_filled 3000000 hsize ?_ (.removed ?_ ?_) fun archive => ?_
  · generalize archiveOf old = archive, archiveOf new = archive'
    cbv
  · generalize archiveOf old = archive, archiveOf new = archive'
    cbv
  · generalize archiveOf old = archive, archiveOf new = archive'
    cbv
  · rw [Tar.unpackMember_threeBytes]
    cbv

/-- Where the archive stands alone, a copy can be made of it, at some location. -/
structure AwaitsCopy (archive : ByteArray) (directory : String) (top : Location) : Prop where
  wellFormed : (archiveAlone 0 0 0 2 archive).WellFormed
  absent : (archiveAlone 0 0 0 2 archive).find (single directory).directory false =
    .error (.os .noEntry)
  leads : ∃ made e, (archiveAlone 0 0 0 2 archive).makeDirectories (single directory).directory =
    (.ok (), made) ∧ made.find (single directory).directory false = .ok (top, e)

/-- The archive is there from the start, and the copy is not. -/
theorem AwaitsCopy.starts {archive : ByteArray} {directory : String} {top : Location}
    (h : AwaitsCopy archive directory top) :
    (single directory).Starts oneArtifactHost.config top (archiveAlone 0 0 0 2 archive) where
  wellFormed := h.wellFormed
  absent hthere := by
    rw [h.absent] at hthere
    cases hthere
  leads hmade' := by
    obtain ⟨made, e, hmade, hfound⟩ := h.leads
    cases hmade.symm.trans hmade'
    exact ⟨e, hfound⟩
  archives name hname := by
    have hlocated : Artifact.locate oneArtifactHost.config (archiveAlone 0 0 0 2 archive) "A" =
        .ok (.ofText "./x.tar") := by
      cbv
    exact ⟨_, (List.mem_singleton.mp hname) ▸ hlocated⟩

/-- From the start by a fetch and a replacement. -/
theorem run_replacedOnce {old : ByteArray} (new : ByteArray) {journal : List Event}
    (hsize : old.size = 3)
    (hfirst : ((single "a").ensureCurrent oneArtifactHost).perform
        (World.until ⟨archiveAlone 0 0 0 2 (archiveOf old), []⟩ ⟨1000000⟩) =
      (.ok .renewed, ⟨besideFilled firstMaking old (archiveOf old), journal⟩)) :
    Run (single "a") oneArtifactHost (fun content => (Tar.read content).IsOfFiles)
      (.ofTexts ["a"]) ⟨archiveAlone 0 0 0 2 (archiveOf old), []⟩
      (replacedOnce journal old (archiveOf old) new) := by
  have hstart : (⟨0⟩ : Timestamp) < ⟨1000000⟩ := by decide
  have hlater : (⟨1002000⟩ : Timestamp) < ⟨2000000⟩ := by decide
  refine .step (.step (.start _) hstart (.fetched hfirst (holdsOnly_besideFilled hsize))) hlater
    (.replaced 1 new fun hentry => ?_)
  refine FileSystem.of_entry?_eq_some
    (P := fun l e => e.serial = 1 → e.isFile = true ∧ ¬Location.ofTexts ["a"] <+: l) ?_ hentry
  change ∀ x ∈ (besideFilled firstMaking old (archiveOf old)).entries, _
  have houtside : ¬Location.ofTexts ["a"] <+: Location.ofTexts ["x.tar"] := by decide
  simp [besideFilled, firstMaking, archiveRow, Entry.isFile, houtside]

/-- A copy that was fetched is fetched again once its archive was replaced, and then its file holds
what the new archive holds. -/
theorem isCurrent_after_replacement :
    let copy := single "a"
    let f := Location.ofTexts ["a", "f"]
    ∃ w w', Run copy oneArtifactHost (fun content => (Tar.read content).IsOfFiles) (.ofTexts ["a"])
        ⟨archiveAlone 0 0 0 2 (archiveOf "old".toUTF8), []⟩ w ∧
      (w.files.entry? f).map (·.node) = some (.file "old".toUTF8) ∧
      (copy.ensureCurrent oneArtifactHost).perform (w.until ⟨3000000⟩) = (.ok .renewed, w') ∧
      copy.IsCurrent oneArtifactHost.config Tree.putFiles w'.files ∧
      (w'.files.entry? f).map (·.node) = some (.file "new".toUTF8) := by
  intro copy f
  have hold : "old".toUTF8.size = 3 := by decide
  have hnew : "new".toUTF8.size = 3 := by decide
  obtain ⟨⟨files, journal⟩, hfirst, rfl⟩ := exists_filled_first hold
  obtain ⟨w', hsecond, hfilled⟩ := exists_filled_again "old".toUTF8 hnew journal
  have hrun := run_replacedOnce (archiveOf "new".toUTF8) hold hfirst
  have hstarts : copy.Starts oneArtifactHost.config (.ofTexts ["a"])
      (archiveAlone 0 0 0 2 (archiveOf "old".toUTF8)) := by
    have hwell : (archiveAlone 0 0 0 2 (archiveOf "old".toUTF8)).WellFormed :=
      FileSystem.wellFormed_of_rows (by decide) (by decide)
    revert hwell
    generalize archiveOf "old".toUTF8 = archive
    intro hwell
    have hmade : (archiveAlone 0 0 0 2 archive).makeDirectories copy.directory =
        (.ok (), besideMade ⟨0, 2, 0⟩ archive) := by
      cbv
    have hfound : (besideMade ⟨0, 2, 0⟩ archive).find copy.directory false =
        .ok (.ofTexts ["a"], ⟨2, .directory, directoryMode, ⟨0⟩⟩) := by
      cbv
    exact AwaitsCopy.starts ⟨hwell, by cbv, _, _, hmade, hfound⟩
  have hdescends : copy.directory.climbs = false := by decide
  have hlater : (⟨2000000⟩ : Timestamp) < ⟨3000000⟩ := by decide
  have hcurrent : copy.IsCurrent oneArtifactHost.config Tree.putFiles w'.files :=
    isCurrent_after_every_fetch (Unpacker.lawful_tar copy.directory) hstarts
      (fun hclimbs => by simp [hdescends] at hclimbs) hrun hlater hsecond
      (hfilled ▸ holdsOnly_besideFilled hnew)
  refine ⟨_, w', hrun, ?_, hsecond, hcurrent, ?_⟩
  · generalize archiveOf "old".toUTF8 = archive, archiveOf "new".toUTF8 = archive'
    cbv
  · rw [hfilled]
    generalize archiveOf "new".toUTF8 = archive
    cbv

/-! ### A path that climbs -/

/-- What a copy leads to whose path climbs out of a missing directory. -/
def climbed : FileSystem :=
  { entries :=
      [(.ofTexts ["a", "b"], ⟨3, .directory, directoryMode, ⟨1001000⟩⟩),
        (.ofTexts ["a"], ⟨2, .directory, directoryMode, ⟨1001000⟩⟩)] ++
      archiveRow 1000000 0 ByteArray.empty
    nextSerial := 4
    now := ⟨1002000⟩
    here := [] }

theorem perform_climbing_single :
    (((single "a/b/..").ensureCurrent oneArtifactHost).perform
      (World.until ⟨archiveAlone 0 0 0 2 ByteArray.empty, []⟩ ⟨1000000⟩)).map id World.files =
        (.ok .renewed, climbed) := by
  cbv

theorem holds_climbed : Artifact.Holds oneArtifactHost.config climbed "A" ByteArray.empty :=
  ⟨.ofText "./x.tar", by cbv, by cbv⟩

/-- Beside what the archive holds, which is nothing, there is the directory `b`. -/
theorem not_isCurrent_climbed :
    ¬(single "a/b/..").IsCurrent oneArtifactHost.config Tree.putFiles climbed := by
  rintro ⟨top, e, contents, hstatus, hcontents, htree⟩
  have hled : climbed.status (single "a/b/..").directory =
      .ok (.ofTexts ["a"], ⟨2, .directory, directoryMode, ⟨1001000⟩⟩) := by
    cbv
  obtain ⟨rfl, -⟩ := Prod.mk.inj (Except.ok.inj (hled.symm.trans hstatus))
  cases hcontents with
  | cons hheld hrest =>
    cases hrest
    have hread : Tar.read ByteArray.empty = ⟨[], none, 0⟩ := rfl
    have hempty : Tree.unpacked Tree.putFiles [ByteArray.empty] = Tree.empty := by
      simp [Tree.unpacked, Tree.putFiles, hread, Tar.Archive.files]
    rw [hheld.unique holds_climbed, hempty] at htree
    have hbelow := congrFun htree (.ofTexts ["b"])
    revert hbelow
    decide

/-- A path that climbs out of a missing directory leads to a copy that is not current as soon as it
was fetched: the missing directory was made in it. -/
theorem climbing_copy_not_current :
    let copy := single "a/b/.."
    let files := archiveAlone 0 0 0 2 ByteArray.empty
    oneArtifactHost.unpacker.Lawful copy.directory (fun content => (Tar.read content).IsOfFiles)
        Tree.putFiles ∧
      copy.Starts oneArtifactHost.config (.ofTexts ["a"]) files ∧
      ∃ w', (copy.ensureCurrent oneArtifactHost).perform (World.until ⟨files, []⟩ ⟨1000000⟩) =
          (.ok .renewed, w') ∧
        copy.HoldsOnly oneArtifactHost.config (fun content => (Tar.read content).IsOfFiles)
          w'.files ∧
        ¬copy.IsCurrent oneArtifactHost.config Tree.putFiles w'.files := by
  intro copy files
  have hmade : files.makeDirectories copy.directory = (.ok (),
      (files.add (.ofTexts ["a"]) .directory directoryMode).add (.ofTexts ["a", "b"]) .directory
        directoryMode) := by
    cbv
  have hfound : FileSystem.find
      ((files.add (.ofTexts ["a"]) .directory directoryMode).add (.ofTexts ["a", "b"]) .directory
        directoryMode) copy.directory false =
          .ok (.ofTexts ["a"], ⟨2, .directory, directoryMode, ⟨1000⟩⟩) := by
    cbv
  have hwell : files.WellFormed := FileSystem.wellFormed_of_rows (by decide) (by decide)
  obtain ⟨houtcome, hfiles⟩ := Prod.ext_iff.mp perform_climbing_single
  have hclimbed : ((copy.ensureCurrent oneArtifactHost).perform
      (World.until ⟨files, []⟩ ⟨1000000⟩)).2.files = climbed := hfiles
  have habsent : files.find copy.directory false = .error (.os .noEntry) := by
    cbv
  refine ⟨Unpacker.lawful_tar copy.directory,
    AwaitsCopy.starts ⟨hwell, habsent, _, _, hmade, hfound⟩, _, Prod.ext houtcome rfl, ?_⟩
  rw [hclimbed]
  refine ⟨fun {name content} hname hheld => ?_, not_isCurrent_climbed⟩
  obtain rfl := List.mem_singleton.mp hname
  rw [hheld.unique holds_climbed]
  exact List.forall_mem_nil _

end Copy

end Launchpad
