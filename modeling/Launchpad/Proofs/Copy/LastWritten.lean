import Launchpad.Proofs.Copy.Failures
import Launchpad.Proofs.Copy.Unresolved
import Launchpad.Proofs.Tar.Reading
import Launchpad.Proofs.Tar.Unpacking

/-!
What a copy holds after it was renewed does not depend on what was there before. It is what the
contents of the archives lead to in an empty directory; for tar archives of files this is, at each
place, the last content in the last archive that has this place.
-/

namespace Launchpad

open Launchpad.Action Launchpad.Tar

namespace Copy

/-- Two renewals of a copy from the same contents leave the same tree, whatever either of them
found: the one that the contents lead to. Tar archives of files lead to what they say last. -/
theorem renewals_agree {copy : Copy} {host : Host} {contents : List ByteArray} {v v' w w' : World}
    (hname : copy.directory.isEmpty = false)
    (hv : copy.Ready host.config contents v.files) (hw : copy.Ready host.config contents w.files)
    (hfirst : (copy.ensureCurrent host).perform v = (.ok .renewed, v'))
    (hsecond : (copy.ensureCurrent host).perform w = (.ok .renewed, w')) :
    (∀ {tree}, host.unpacker.Leads copy.directory contents Tree.empty tree →
      v'.files.Shows copy.directory tree ∧ w'.files.Shows copy.directory tree) ∧
    (host.unpacker = .tar → (∀ content ∈ contents, (Tar.read content).IsOfFiles) →
      Tar.Archive.Unnested (contents.map Tar.read) →
        v'.files.Shows copy.directory (.ofArchives (contents.map Tar.read)) ∧
          w'.files.Shows copy.directory (.ofArchives (contents.map Tar.read))) := by
  have hagree : ∀ {tree}, host.unpacker.Leads copy.directory contents Tree.empty tree →
      v'.files.Shows copy.directory tree ∧ w'.files.Shows copy.directory tree := fun hleads =>
    ⟨hv.shows hname hfirst hleads, hw.shows hname hsecond hleads⟩
  refine ⟨hagree, fun htar hfiles hflat => hagree ?_⟩
  rw [htar, ← Tree.foldl_put_files hflat]
  exact Unpacker.leads_tar hfiles Tree.noLink_empty

/-! ### Two archives with the same file -/

/-- A host that knows where two archives lie. -/
def pairHost : Host :=
  { config := { artifacts := [("A", .ofText "x.tar"), ("B", .ofText "y.tar")] }
    executor := ⟨fun _ _ w => ⟨.ok (0, ""), w.files, []⟩⟩
    arch := .standard }

def pair : Copy := ⟨.ofText "a", ["A", "B"]⟩

/-- The archives, in a root directory that was changed at some moment. -/
def archiveRows (changed : Timestamp) (first second : ByteArray) : List (Location × Entry) :=
  [([], ⟨0, .directory, directoryMode, changed⟩),
    (.ofTexts ["x.tar"], ⟨1, .file first, fileMode, ⟨5⟩⟩),
    (.ofTexts ["y.tar"], ⟨2, .file second, fileMode, ⟨5⟩⟩)]

def besideOldCopy (first second : ByteArray) : FileSystem :=
  { entries :=
      [(.ofTexts ["a"], ⟨3, .directory, directoryMode, ⟨1⟩⟩),
        (.ofTexts ["a", "f"], ⟨4, .file "bad".toUTF8, fileMode, ⟨1⟩⟩),
        (.ofTexts ["a", "keep.js"], ⟨5, .file ByteArray.empty, fileMode, ⟨1⟩⟩)] ++
      archiveRows ⟨0⟩ first second
    nextSerial := 6
    now := ⟨10⟩
    here := [] }

/-- The archives alone. -/
def noCopy (first second : ByteArray) : FileSystem :=
  { entries := archiveRows ⟨10⟩ first second
    nextSerial := 6
    now := ⟨1010⟩
    here := [] }

/-- The archives beside a new copy with nothing in it. -/
def besideEmptyCopy (first second : ByteArray) : FileSystem :=
  { entries :=
      (.ofTexts ["a"], ⟨6, .directory, directoryMode, ⟨1010⟩⟩) :: archiveRows ⟨1010⟩ first second
    nextSerial := 7
    now := ⟨2010⟩
    here := [] }

def besideNewCopy (serial : Nat) (moment : Int) (content first second : ByteArray) : FileSystem :=
  { entries :=
      [(.ofTexts ["a", "f"], ⟨serial, .file content, 0o644, ⟨1000000000⟩⟩),
        (.ofTexts ["a"], ⟨6, .directory, directoryMode, ⟨moment⟩⟩)] ++
      archiveRows ⟨1010⟩ first second
    nextSerial := serial + 1
    now := ⟨moment + 1000⟩
    here := [] }

/-- The copy is stale, and once it is cleared away the archives are left alone. -/
structure LeavesArchives (fs : FileSystem) (first second : ByteArray) : Prop where
  stale : ((pair.isStale pairHost.config).perform ⟨fs, []⟩).map id World.files = (.ok true, fs)
  clears : pair.Clears fs (noCopy first second)

section Steps

variable (old new first second : ByteArray)

theorem leavesArchives_noCopy : LeavesArchives (noCopy first second) first second := by
  have hstale : ((pair.isStale pairHost.config).perform
      ⟨noCopy first second, []⟩).map id World.files = (.ok true, noCopy first second) := by
    cbv
  have hmissing : (noCopy first second).pathExists pair.directory = false := by
    cbv
  exact ⟨hstale, .missing hmissing⟩

theorem leavesArchives_besideOldCopy :
    LeavesArchives (besideOldCopy first second) first second := by
  have hstale : ((pair.isStale pairHost.config).perform
      ⟨besideOldCopy first second, []⟩).map id World.files =
        (.ok true, besideOldCopy first second) := by
    cbv
  have hthere : (besideOldCopy first second).pathExists pair.directory = true := by
    cbv
  have hremoved : (besideOldCopy first second).removeTree pair.directory =
      (.ok (), noCopy first second) := by
    cbv
  exact ⟨hstale, .removed hthere hremoved⟩

theorem makeDirectories_noCopy :
    (noCopy first second).makeDirectories pair.directory =
      (.ok (), besideEmptyCopy first second) := by
  cbv

theorem holds_besideEmptyCopy :
    List.Forall₂ (Artifact.Holds pairHost.config (besideEmptyCopy first second)) pair.artifacts
      [first, second] :=
  .cons ⟨.ofText "./x.tar", by cbv, by cbv⟩ (.cons ⟨.ofText "./y.tar", by cbv, by cbv⟩ .nil)

/-- The file is written into the empty copy, and then in place of itself. -/
theorem unpackMember_pair :
    Tar.unpackMember (.ofTexts ["a"]) (threeBytes.member old) (besideEmptyCopy first second) =
        (.ok (), besideNewCopy 7 2010 old first second) ∧
      Tar.unpackMember (.ofTexts ["a"]) (threeBytes.member new)
          (besideNewCopy 7 2010 old first second) =
        (.ok (), besideNewCopy 8 4010 new first second) := by
  simp only [Tar.unpackMember_threeBytes]
  constructor
  · cbv
  · cbv

end Steps

/-- Both archives are unpacked into the empty copy, and the file of the second one stays. -/
theorem adds_besideEmptyCopy {old new : ByteArray} (hold : old.size = 3) (hnew : new.size = 3) :
    Adds pairHost pair.directory pair.artifacts [archiveOf old, archiveOf new]
      (besideEmptyCopy (archiveOf old) (archiveOf new))
      (besideNewCopy 8 4010 new (archiveOf old) (archiveOf new)) := by
  have hB : ∀ first second : ByteArray, Artifact.Holds pairHost.config
      (besideNewCopy 7 2010 old first second) "B" second := fun first second =>
    ⟨.ofText "./y.tar", by cbv, by cbv⟩
  have hempty : ∀ first second : ByteArray,
      (besideEmptyCopy first second).IsDirectoryAt pair.directory (.ofTexts ["a"]) :=
    fun first second => ⟨⟨6, .directory, directoryMode, ⟨1010⟩⟩, by cbv, rfl⟩
  have hthere : ∀ first second : ByteArray, (besideNewCopy 7 2010 old first second).IsDirectoryAt
      pair.directory (.ofTexts ["a"]) :=
    fun first second => ⟨⟨6, .directory, directoryMode, ⟨2010⟩⟩, by cbv, rfl⟩
  obtain ⟨hfirst, hsecond⟩ := unpackMember_pair old new (archiveOf old) (archiveOf new)
  have hholds := holds_besideEmptyCopy (archiveOf old) (archiveOf new)
  exact .cons (List.forall₂_cons.mp hholds).1 (tar_archiveOf hold (hempty _ _) hfirst)
    (.cons (hB _ _) (tar_archiveOf hnew (hthere _ _) hsecond) (.nil _))

namespace LeavesArchives

theorem ready {first second : ByteArray} {fs : FileSystem} (h : LeavesArchives fs first second)
    (hsound : fs.Sound) : pair.Ready pairHost.config [first, second] fs where
  sound := hsound
  archives := by
    intro cleared made hclears hmade
    rw [h.clears.unique hclears, makeDirectories_noCopy] at hmade
    cases hmade
    exact holds_besideEmptyCopy first second
  opens := by
    intro hclimbs
    have hdescends : pair.directory.climbs = false := by decide
    rw [hdescends] at hclimbs
    cases hclimbs

theorem exists_renewed {old new : ByteArray} {fs : FileSystem}
    (h : LeavesArchives fs (archiveOf old) (archiveOf new)) (hold : old.size = 3)
    (hnew : new.size = 3) :
    ∃ w', (pair.ensureCurrent pairHost).perform ⟨fs, []⟩ = (.ok .renewed, w') := by
  obtain ⟨hasked, hfiles⟩ := Prod.ext_iff.mp h.stale
  have hsame : ((pair.isStale pairHost.config).perform ⟨fs, []⟩).2.files = fs := hfiles
  obtain ⟨w', hrenewed, -⟩ := Copy.exists_renewed (Prod.ext hasked rfl)
    ⟨_, _, _, hsame.symm ▸ h.clears, makeDirectories_noCopy _ _, adds_besideEmptyCopy hold hnew⟩
  exact ⟨w', hrenewed⟩

end LeavesArchives

theorem unnested_pair {old new : ByteArray} (hold : old.size = 3) (hnew : new.size = 3) :
    Tar.Archive.Unnested ([archiveOf old, archiveOf new].map Tar.read) := by
  have hlist : ([archiveOf old, archiveOf new].map Tar.read).flatMap (·.files) =
      [([Name.ofText "f"], old), ([Name.ofText "f"], new)] := by
    simp [files_archiveOf, hold, hnew]
  unfold Tar.Archive.Unnested
  rw [hlist]
  simp

theorem ofArchives_pair {old new : ByteArray} (hnew : new.size = 3) :
    Tree.ofArchives ([archiveOf old, archiveOf new].map Tar.read) [Name.ofText "f"] =
      some (.file new) := by
  have hlast : (Tar.read (archiveOf new)).content? [Name.ofText "f"] = some new := by
    rw [Tar.Archive.content?, files_archiveOf hnew, List.reverse_singleton,
      List.lookup_cons_self]
  rw [List.map_cons, List.map_singleton, ← List.singleton_append]
  exact Tree.ofArchives_concat hlast

/-- Where there was no copy and where there was an old one, with a file that no archive has, the
same stands afterwards, and the file that both archives have is that of the second. -/
theorem renewals_agree_over_old_copy :
    let old := archiveOf "old".toUTF8
    let new := archiveOf "new".toUTF8
    let tree := Tree.ofArchives ([old, new].map Tar.read)
    ∃ v' w', (pair.ensureCurrent pairHost).perform ⟨noCopy old new, []⟩ = (.ok .renewed, v') ∧
      (pair.ensureCurrent pairHost).perform ⟨besideOldCopy old new, []⟩ = (.ok .renewed, w') ∧
      v'.files.Shows pair.directory tree ∧ w'.files.Shows pair.directory tree ∧
      tree [Name.ofText "f"] = some (.file "new".toUTF8) := by
  intro old new tree
  have hold : "old".toUTF8.size = 3 := by decide
  have hnew : "new".toUTF8.size = 3 := by decide
  have hleaves := leavesArchives_noCopy old new
  have hleaves' := leavesArchives_besideOldCopy old new
  obtain ⟨v', hfirst⟩ := hleaves.exists_renewed hold hnew
  obtain ⟨w', hsecond⟩ := hleaves'.exists_renewed hold hnew
  have hv := hleaves.ready (FileSystem.sound_of_rows (by decide))
  have hw := hleaves'.ready (FileSystem.sound_of_rows (by decide))
  have hfiles : ∀ content ∈ [old, new], (Tar.read content).IsOfFiles := by
    simp only [List.forall_mem_cons]
    exact ⟨isOfFiles_archiveOf hold, isOfFiles_archiveOf hnew, List.forall_mem_nil _⟩
  have hname : pair.directory.isEmpty = false := by decide
  obtain ⟨hshows, hshows'⟩ := (renewals_agree hname hv hw hfirst hsecond).2 rfl hfiles
    (unnested_pair hold hnew)
  exact ⟨v', w', hfirst, hsecond, hshows, hshows', ofArchives_pair hnew⟩

/-! ### A path that climbs -/

/-- Where the archives of a copy hold the same, renewing it leaves the same tree. -/
def RenewalsAgree (copy : Copy) (host : Host) (v w : World) : Prop :=
  ∀ contents, List.Forall₂ (Artifact.Holds host.config v.files) copy.artifacts contents →
    List.Forall₂ (Artifact.Holds host.config w.files) copy.artifacts contents →
    ∀ v' w', (copy.ensureCurrent host).perform v = (.ok .renewed, v') →
      (copy.ensureCurrent host).perform w = (.ok .renewed, w') →
        treeOf? v'.files copy.directory = treeOf? w'.files copy.directory

/-- An archive that holds nothing, and what else there is. -/
def emptyArchiveBeside (rows : List (Location × Entry)) : World :=
  { files :=
      { entries := rows ++
          [([], ⟨0, .directory, directoryMode, ⟨1⟩⟩),
            (Location.ofTexts ["x.tar"], ⟨1, .file ByteArray.empty, fileMode, ⟨1⟩⟩)]
        nextSerial := 4
        now := ⟨10⟩
        here := [] } }

/-- A directory with a file in it. -/
def keptRows : List (Location × Entry) :=
  [(.ofTexts ["b"], ⟨2, .directory, directoryMode, ⟨1⟩⟩),
    (.ofTexts ["b", "keep.js"], ⟨3, .file "kept".toUTF8, fileMode, ⟨1⟩⟩)]

/-- A copy whose path goes through a directory and up again. -/
def climbing : Copy := ⟨.ofText "a/../b", ["A"]⟩

/-- What the copy has under the name of the kept file. -/
def kept? (w : World) : Option (Option Node) :=
  (treeOf? w.files climbing.directory).map (· (.ofTexts ["keep.js"]))

/-- As long as `a` is missing, the path `a/../b` leads nowhere, although `b` is there: so `b` is not
cleared away, and once `a` was made it is taken for the directory to unpack into. -/
theorem not_renewalsAgree_climbing :
    ¬climbing.RenewalsAgree oneArtifactHost (emptyArchiveBeside keptRows)
      (emptyArchiveBeside []) := by
  intro h
  have hholds : List.Forall₂ (Artifact.Holds oneArtifactHost.config
      (emptyArchiveBeside keptRows).files) ["A"] [ByteArray.empty] :=
    .cons ⟨.ofText "./x.tar", by cbv, by cbv⟩ .nil
  have hholds' : List.Forall₂ (Artifact.Holds oneArtifactHost.config
      (emptyArchiveBeside []).files) ["A"] [ByteArray.empty] :=
    .cons ⟨.ofText "./x.tar", by cbv, by cbv⟩ .nil
  have hrenewed : ((climbing.ensureCurrent oneArtifactHost).perform
      (emptyArchiveBeside keptRows)).map id kept? =
        (.ok .renewed, some (some (.file "kept".toUTF8))) := by
    cbv
  have hrenewed' : ((climbing.ensureCurrent oneArtifactHost).perform
      (emptyArchiveBeside [])).map id kept? = (.ok .renewed, some none) := by
    cbv
  obtain ⟨hfirst, hkept⟩ := Prod.ext_iff.mp hrenewed
  obtain ⟨hsecond, hnone⟩ := Prod.ext_iff.mp hrenewed'
  have htree := h _ hholds hholds' _ _ (Prod.ext hfirst rfl) (Prod.ext hsecond rfl)
  simp only [Prod.map_snd, kept?] at hkept hnone
  rw [htree, hnone] at hkept
  cases hkept

end Copy

end Launchpad
