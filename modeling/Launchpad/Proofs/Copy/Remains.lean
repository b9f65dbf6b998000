import Launchpad.Proofs.Copy.Failures
import Launchpad.Proofs.Copy.Unresolved
import Launchpad.Proofs.Tar.Unpacking
import Mathlib

/-!
What stands where after a fetch has failed. Outside the copy an entry differs only if it is a
directory that was made above the copy, or one that got or lost an entry; in the copy stands what
the archives in front of the one that failed were unpacked to, and what was unpacked of that one.
-/

namespace Launchpad

namespace Copy

variable {copy : Copy} {resolver : Resolver} {unpacker : Unpacker} {w w' : World}
  {fs gs cleared made : FileSystem} {failure : Failure} {stage : Stage} {l top : Location}

/-! ### Outside the copy -/

/-- A location belongs to a copy if it lies where the path of the copy leads before it is cleared
away, or where it leads once its directory was made. -/
inductive Covers (copy : Copy) (fs : FileSystem) (l : Location) : Prop where
  | standing {top : Location} {e : Entry} (h : fs.find copy.directory false = .ok (top, e))
      (hbelow : top <+: l)
  | made {cleared made : FileSystem} {top : Location} (hclears : copy.Clears fs cleared)
      (hmakes : cleared.makeDirectories copy.directory = (.ok (), made))
      (hleads : made.IsDirectoryAt copy.directory top) (hbelow : top <+: l)

/-- How little an entry outside a copy differs: not at all, or it is a directory that was made above
the copy, or one that got or lost an entry and carries another time stamp. -/
inductive Spares (copy : Copy) (fs gs : FileSystem) (l : Location) : Prop where
  | same (h : gs.entry? l = fs.entry? l)
  | made {cleared made : FileSystem} {outcome : Except IoError Unit} {e e' : Entry} {q : Path}
      (hfree : fs.entry? l = none) (h : gs.entry? l = some e) (hnode : e.node = .directory)
      (hmode : e.mode = directoryMode) (hclears : copy.Clears fs cleared)
      (hmakes : cleared.makeDirectories copy.directory = (outcome, made))
      (habove : q.IsAbove copy.directory)
      (hleads : made.locate q.withoutSlash false = .ok ⟨l, some e'⟩)
  | stamped {e : Entry} {moment : Timestamp} {name : Name} (hbefore : fs.entry? l = some e)
      (hdir : e.isDirectory = true) (h : gs.entry? l = some { e with modified := moment })
      (hholds : copy.Covers fs (l ++ [name]) ∨
        fs.entry? (l ++ [name]) = none ∧ gs.entry? (l ++ [name]) ≠ none)

/-- Clearing a copy away stamps the directory that held it. -/
theorem Clears.spares (h : copy.Clears fs cleared) (htree : fs.IsTree)
    (hl : ¬copy.Covers fs l) :
    cleared.entry? l = fs.entry? l ∨ ∃ e moment name, fs.entry? l = some e ∧
      e.isDirectory = true ∧ cleared.entry? l = some { e with modified := moment } ∧
      copy.Covers fs (l ++ [name]) := by
  cases h with
  | missing => exact .inl rfl
  | removed _ h =>
    obtain ⟨top, own, hfound, rfl⟩ := FileSystem.removeTree_ok h
    have houtside : ¬top <+: l := fun hbelow => hl (.standing hfound hbelow)
    rw [FileSystem.entry?_remove, if_neg houtside]
    cases hentry : fs.entry? l with
    | none => exact .inl rfl
    | some e =>
      by_cases hholder : l = top.dropLast
      · have hroot : top ≠ [] := by
          rintro rfl
          exact houtside List.nil_prefix
        obtain ⟨d, hd, hdir⟩ := htree.held (FileSystem.entry?_of_find hfound) hroot
        rw [← hholder, hentry] at hd
        cases hd
        have hname : l ++ [top.getLast hroot] = top := by
          rw [hholder, List.dropLast_append_getLast]
        refine .inr ⟨e, fs.now, top.getLast hroot, rfl, hdir, ?_, ?_⟩
        · rw [Option.map_some, if_pos hholder]
        · rw [hname]
          exact .standing hfound (List.prefix_refl top)
      · exact .inl (by rw [Option.map_some, if_neg hholder])

theorem Clears.here_eq (h : copy.Clears fs cleared) : cleared.here = fs.here := by
  cases h with
  | missing => rfl
  | removed _ h =>
    obtain ⟨top, own, -, rfl⟩ := FileSystem.removeTree_ok h
    rfl

/-- Making the directory, with those above it, whether it succeeds or not. -/
theorem spares_of_makeDirectories {outcome : Except IoError Unit} (htree : fs.IsTree)
    (hclears : copy.Clears fs cleared)
    (hmakes : cleared.makeDirectories copy.directory = (outcome, made))
    (hl : ¬copy.Covers fs l) : copy.Spares fs made l := by
  have hmade := FileSystem.makesAbove_of_makeDirectoriesFuel hmakes
  have hcleared := hclears.spares htree hl
  cases hentry : cleared.entry? l with
  | none =>
    have hfree : fs.entry? l = none := by
      rcases hcleared with hsame | ⟨e, moment, name, -, -, hstamped, -⟩
      · rw [← hsame, hentry]
      · rw [hentry] at hstamped
        cases hstamped
    cases hnew : made.entry? l with
    | none => exact .same (hnew.trans hfree.symm)
    | some e =>
      obtain ⟨hnode, hmode, q, habove, e', hleads⟩ := hmade.fresh hnew hentry
      exact .made hfree hnew hnode hmode hclears hmakes habove hleads
  | some own =>
    rcases hmade.kept hentry with hkept | ⟨hdir, ⟨moment, hstamped⟩, name, hfree, hthere⟩
    · rcases hcleared with hsame | ⟨e, moment, name, hbefore, hdir, hstamped, hcovers⟩
      · exact .same (hkept.trans (hentry.symm.trans hsame))
      · exact .stamped hbefore hdir (hkept.trans (hentry.symm.trans hstamped)) (.inl hcovers)
    · -- The name that was free may have been freed just before.
      have hholds : copy.Covers fs (l ++ [name]) ∨
          fs.entry? (l ++ [name]) = none ∧ made.entry? (l ++ [name]) ≠ none := by
        by_cases hcovers : copy.Covers fs (l ++ [name])
        · exact .inl hcovers
        · refine .inr ⟨?_, hthere⟩
          rcases hclears.spares htree hcovers with hsame | ⟨e, _, _, -, -, hstamped', -⟩
          · rw [← hsame, hfree]
          · rw [hfree] at hstamped'
            cases hstamped'
      rcases hcleared with hsame | ⟨e, _, _, hbefore, -, hstamped', -⟩
      · exact .stamped (hsame.symm.trans hentry) hdir hstamped hholds
      · cases hentry.symm.trans hstamped'
        exact .stamped hbefore hdir hstamped hholds

/-- What happens in the copy changes nothing outside. -/
theorem Spares.of_sameOutside (h : copy.Spares fs made l)
    (hcovers : ∀ {m}, top <+: m → copy.Covers fs m)
    (hsame : FileSystem.SameOutside top made gs) (hl : ¬copy.Covers fs l) :
    copy.Spares fs gs l := by
  have hentry : gs.entry? l = made.entry? l :=
    hsame.entry?_eq fun hbelow => hl (hcovers hbelow)
  cases h with
  | same h => exact .same (hentry.trans h)
  | made hfree h hnode hmode hclears hmakes habove hleads =>
    exact .made hfree (hentry.trans h) hnode hmode hclears hmakes habove hleads
  | @stamped e moment name hbefore hdir h hholds =>
    have hholds' : copy.Covers fs (l ++ [name]) ∨
        fs.entry? (l ++ [name]) = none ∧ gs.entry? (l ++ [name]) ≠ none := by
      rcases hholds with hcovered | ⟨hfree, hthere⟩
      · exact .inl hcovered
      · by_cases hbelow : top <+: l ++ [name]
        · exact .inl (hcovers hbelow)
        · exact .inr ⟨hfree, by rwa [hsame.entry?_eq hbelow]⟩
    exact .stamped hbefore hdir (hentry.trans h) hholds'

/-- Outside the copy a fetch that fails changes nothing but what was made above it, and stamps. -/
theorem BreaksAt.spares (hbelow : unpacker.StaysBelow copy.directory) (hwell : w.files.WellFormed)
    (hopens : copy.directory.climbs = true → copy.OpensStraight w.files)
    (h : copy.BreaksAt resolver unpacker w failure w' stage) :
    w'.files.here = w.files.here ∧
      ∀ {l}, ¬copy.Covers w.files l → copy.Spares w.files w'.files l := by
  cases h with
  | asking => exact ⟨rfl, fun _ => .same rfl⟩
  | clearing _ _ hfails =>
    rcases FileSystem.sameOutside_of_removeTree hfails with rfl | ⟨top, e, hfound, hsame⟩
    · exact ⟨rfl, fun _ => .same rfl⟩
    · refine ⟨hsame.here, fun hl => .same (hsame.entry?_eq fun hbelow => ?_)⟩
      exact hl (.standing hfound hbelow)
  | making _ hclears hfails =>
    have hhere := (FileSystem.makesAbove_of_makeDirectoriesFuel hfails).here
    exact ⟨hhere.trans hclears.here_eq, spares_of_makeDirectories hwell.isTree hclears hfails⟩
  | adding _ hmade _ _ hbefore hfails _ _ =>
    have hsame := (hbelow.fails (hmade.wellFormed hwell) (hmade.leadsStraight hopens) hbefore
      hfails).toSameOutside
    have hhere := (FileSystem.makesAbove_of_makeDirectoriesFuel hmade.makes).here
    refine ⟨hsame.here.trans (hhere.trans hmade.clears.here_eq), fun hl => ?_⟩
    have hspared := spares_of_makeDirectories hwell.isTree hmade.clears hmade.makes hl
    exact hspared.of_sameOutside (.made hmade.clears hmade.makes hmade.leads) hsame hl

/-- A fetch that fails does so at one stage, which settles what it did before and what it leaves.
It leaves everything outside the copy alone, but for directories that it made above the copy and the
time stamps of directories that got or lost an entry; only if the path of the copy climbs must it be
known that it does not lead through the copy itself. -/
theorem failed_fetch_leaves (copy : Copy) (resolver : Resolver) (unpacker : Unpacker) (w w' : World)
    (failure : Failure) (hname : copy.directory.isEmpty = false) (hwell : w.files.WellFormed)
    (hbelow : unpacker.StaysBelow copy.directory)
    (hfails : (copy.ensureCurrentBy resolver unpacker).perform w = (.error failure, w')) :
    (∃! stage, copy.BreaksAt resolver unpacker w failure w' stage) ∧
      ((copy.directory.climbs = true → copy.OpensStraight w.files) →
        w'.files.here = w.files.here ∧
          ∀ l, ¬copy.Covers w.files l → copy.Spares w.files w'.files l) := by
  obtain ⟨stage, hstage⟩ := exists_breaksAt hname hwell hbelow hfails
  refine ⟨⟨stage, hstage, fun _ hother => hstage.unique hother⟩, fun hopens => ?_⟩
  obtain ⟨hhere, hspares⟩ := hstage.spares hbelow hwell hopens
  exact ⟨hhere, fun _ => hspares⟩

open Tar (archiveOf linkArchive)

/-- A newer archive, in a root directory that was changed at some moment. -/
def newerRows (root : Int) (archive : ByteArray) : List (Location × Entry) :=
  [([], ⟨0, .directory, directoryMode, ⟨root⟩⟩),
    (.ofTexts ["x.tar"], ⟨3, .file archive, fileMode, ⟨2⟩⟩)]

def oldBeside (archive : ByteArray) : FileSystem :=
  { entries :=
      [(.ofTexts ["d"], ⟨1, .directory, directoryMode, ⟨1⟩⟩),
        (.ofTexts ["d", "keep.js"], ⟨2, .file ByteArray.empty, fileMode, ⟨1⟩⟩)] ++
      newerRows 1 archive
    nextSerial := 4
    now := ⟨10⟩
    here := [] }

def newBeside (archive : ByteArray) : FileSystem :=
  { entries :=
      (.ofTexts ["d"], ⟨4, .directory, directoryMode, ⟨1010⟩⟩) :: newerRows 1010 archive
    nextSerial := 5
    now := ⟨2010⟩
    here := [] }

/-- A new copy with the file that the archive holds. -/
def filledBeside (content archive : ByteArray) : FileSystem :=
  { entries :=
      [(.ofTexts ["d", "f"], ⟨5, .file content, 0o644, ⟨1000000000⟩⟩),
        (.ofTexts ["d"], ⟨4, .directory, directoryMode, ⟨2010⟩⟩)] ++
      newerRows 1010 archive
    nextSerial := 6
    now := ⟨3010⟩
    here := [] }

/-- The copy is thrown away and made anew from the archive that is known. -/
theorem renews_oldBeside {content : ByteArray} (hsize : content.size = 3) :
    (half.only ["A"]).Renews oneArtifactHost (oldBeside (archiveOf content))
      (filledBeside content (archiveOf content)) := by
  have hclears : ∀ archive : ByteArray, ∃ cleared,
      (half.only ["A"]).Clears (oldBeside archive) cleared ∧
        cleared.makeDirectories half.directory = (.ok (), newBeside archive) := by
    intro archive
    have hthere : (oldBeside archive).pathExists half.directory = true := by
      cbv
    have hremoved : (oldBeside archive).removeTree half.directory =
        (.ok (), (oldBeside archive).remove (.ofTexts ["d"])) := by
      cbv
    exact ⟨_, .removed hthere hremoved, by cbv⟩
  have hholds : ∀ archive : ByteArray, Artifact.Holds oneArtifactHost.config (newBeside archive)
      "A" archive := fun archive => ⟨.ofText "./x.tar", by cbv, by cbv⟩
  have hleads : ∀ archive : ByteArray,
      (newBeside archive).IsDirectoryAt half.directory (.ofTexts ["d"]) := fun archive =>
    ⟨⟨4, .directory, directoryMode, ⟨1010⟩⟩, by cbv, rfl⟩
  have hmember : ∀ archive : ByteArray, Tar.unpackMember (.ofTexts ["d"])
      (Tar.threeBytes.member content) (newBeside archive) =
        (.ok (), filledBeside content archive) := by
    intro archive
    rw [Tar.unpackMember_threeBytes]
    cbv
  obtain ⟨cleared, hcleared, hmade⟩ := hclears (archiveOf content)
  exact ⟨cleared, _, _, hcleared, hmade,
    .cons (hholds _) (Tar.tar_archiveOf hsize (hleads _) (hmember _)) (.nil _)⟩

/-- The old copy is cleared away for the sake of the newer archive, this is unpacked, and then the
fetch fails at an artifact that nothing is known of. -/
theorem exists_fails_behind_newer (content : ByteArray) (hsize : content.size = 3) :
    ∃ w', (half.ensureCurrent oneArtifactHost).perform ⟨oldBeside (archiveOf content), []⟩ =
        (.error (.unknownArtifact "B"), w') ∧
      w'.files = filledBeside content (archiveOf content) := by
  have hstale : ∀ archive : ByteArray,
      ((half.isStale oneArtifactHost.config).perform ⟨oldBeside archive, []⟩).map id World.files =
        (.ok true, oldBeside archive) := fun archive => by
    cbv
  have hbad : ∀ archive : ByteArray, Artifact.locate oneArtifactHost.config
      (filledBeside content archive) "B" = .error (.unknownArtifact "B") := fun archive => by
    cbv
  obtain ⟨hasked, hfiles⟩ := Prod.ext_iff.mp (hstale (archiveOf content))
  have hsame : ((half.isStale oneArtifactHost.config).perform
      ⟨oldBeside (archiveOf content), []⟩).2.files = oldBeside (archiveOf content) := hfiles
  have hlist : half.artifacts = ["A"] ++ "B" :: [] := rfl
  obtain ⟨w', hrenew, hfilled⟩ := perform_renew_of_unresolved hlist
    (hsame ▸ renews_oldBeside hsize) (hbad _)
  refine ⟨w', ?_, hfilled⟩
  rw [perform_ensureCurrent_of_stale (Prod.ext hasked rfl), hrenew]

/-- What the archive in front of the one that fails holds is there afterwards, and nothing of the
old copy. -/
theorem failed_fetch_behind_newer_archive :
    let archive := archiveOf "new".toUTF8
    let resolver := Resolver.ofTable oneArtifactHost.config
    half.directory.isEmpty = false ∧ (oldBeside archive).WellFormed ∧
      oneArtifactHost.unpacker.StaysBelow half.directory ∧
      ∃ w', (half.ensureCurrent oneArtifactHost).perform ⟨oldBeside archive, []⟩ =
          (.error (.unknownArtifact "B"), w') ∧
        w'.files = filledBeside "new".toUTF8 archive ∧
        (∃! stage, half.BreaksAt resolver oneArtifactHost.unpacker ⟨oldBeside archive, []⟩
          (.unknownArtifact "B") w' stage) ∧
        w'.files.here = (oldBeside archive).here ∧
        ∀ l, ¬half.Covers (oldBeside archive) l →
          half.Spares (oldBeside archive) w'.files l := by
  intro archive resolver
  have hname : half.directory.isEmpty = false := by decide
  have hwell : (oldBeside archive).WellFormed :=
    FileSystem.wellFormed_of_rows (by decide) (by decide)
  have hbelow : oneArtifactHost.unpacker.StaysBelow half.directory :=
    Unpacker.staysBelow_tar half.directory
  obtain ⟨w', hfails, hfilled⟩ := exists_fails_behind_newer "new".toUTF8 (by decide)
  have hfailsBy := hfails
  rw [ensureCurrent_eq_ofTable] at hfailsBy
  obtain ⟨hstage, hspares⟩ := failed_fetch_leaves half resolver oneArtifactHost.unpacker _ w' _
    hname hwell hbelow hfailsBy
  have hdescends : half.directory.climbs = false := by decide
  exact ⟨hname, hwell, hbelow, w', hfails, hfilled, hstage,
    hspares fun hclimbs => by simp [hdescends] at hclimbs⟩

/-! ### A path that climbs -/

/-- An empty root directory. -/
def bareRoot : FileSystem :=
  ⟨[([], ⟨0, .directory, directoryMode, ⟨1⟩⟩)], 1, ⟨10⟩, []⟩

/-- The root directory once `a/b/..` was made in it. -/
def climbedRoot : FileSystem :=
  { entries :=
      [(.ofTexts ["a", "b"], ⟨2, .directory, directoryMode, ⟨1010⟩⟩),
        (.ofTexts ["a"], ⟨1, .directory, directoryMode, ⟨1010⟩⟩),
        ([], ⟨0, .directory, directoryMode, ⟨10⟩⟩)]
    nextSerial := 3
    now := ⟨2010⟩
    here := [] }

theorem perform_climbing :
    (((Copy.mk (.ofText "a/b/..") ["B"]).ensureCurrent oneArtifactHost).perform
      ⟨bareRoot, []⟩).map id World.files = (.error (.unknownArtifact "B"), climbedRoot) := by
  cbv

def twoArtifactHost : Host :=
  { config := { artifacts := [("A", .ofText "x.tar"), ("B", .ofText "y.tar")] }
    executor := ⟨fun _ _ w => ⟨.ok (0, ""), w.files, []⟩⟩
    arch := .standard }

/-- A copy whose path goes through a link in the directory that it leads to. -/
def turning : Copy := ⟨.ofText "a/../c/s/..", ["A", "B", "C"]⟩

/-- What the two archives hold. -/
structure Archives where
  first : ByteArray
  second : ByteArray

/-- What lies around the link: directories that were changed at some moments, and two archives. -/
def aroundLink (root holder other : Int) (a : Archives) : List (Location × Entry) :=
  [([], ⟨0, .directory, directoryMode, ⟨root⟩⟩),
    (.ofTexts ["c"], ⟨1, .directory, directoryMode, ⟨holder⟩⟩),
    (.ofTexts ["c", "e"], ⟨2, .directory, directoryMode, ⟨1⟩⟩),
    (.ofTexts ["z"], ⟨4, .directory, directoryMode, ⟨other⟩⟩),
    (.ofTexts ["z", "q"], ⟨5, .directory, directoryMode, ⟨1⟩⟩),
    (.ofTexts ["x.tar"], ⟨6, .file a.first, fileMode, ⟨1⟩⟩),
    (.ofTexts ["y.tar"], ⟨7, .file a.second, fileMode, ⟨1⟩⟩)]

/-- The link leads to a directory beside it. -/
def linked (a : Archives) : FileSystem :=
  { entries :=
      (.ofTexts ["c", "s"], ⟨3, .link (.ofText "e"), 0o777, ⟨1⟩⟩) :: aroundLink 1 1 1 a
    nextSerial := 8
    now := ⟨10⟩
    here := [] }

/-- The missing directory that the path climbs out of was made. -/
def linkedMade (a : Archives) : FileSystem :=
  { entries :=
      [(.ofTexts ["a"], ⟨8, .directory, directoryMode, ⟨10⟩⟩),
        (.ofTexts ["c", "s"], ⟨3, .link (.ofText "e"), 0o777, ⟨1⟩⟩)] ++
      aroundLink 10 1 1 a
    nextSerial := 9
    now := ⟨1010⟩
    here := [] }

/-- The first archive put another link in the place of the one that was there. -/
def linkedAway (a : Archives) : FileSystem :=
  { entries :=
      [(.ofTexts ["c", "s"], ⟨9, .link (.ofText "../z/q"), 0o777, ⟨2010⟩⟩),
        (.ofTexts ["a"], ⟨8, .directory, directoryMode, ⟨10⟩⟩)] ++
      aroundLink 10 2010 1 a
    nextSerial := 10
    now := ⟨3010⟩
    here := [] }

/-- The second archive was unpacked where the path leads by then. -/
def writtenAway (content : ByteArray) (a : Archives) : FileSystem :=
  { entries :=
      [(.ofTexts ["z", "f"], ⟨10, .file content, 0o644, ⟨1000000000⟩⟩),
        (.ofTexts ["c", "s"], ⟨9, .link (.ofText "../z/q"), 0o777, ⟨2010⟩⟩),
        (.ofTexts ["a"], ⟨8, .directory, directoryMode, ⟨10⟩⟩)] ++
      aroundLink 10 2010 3010 a
    nextSerial := 11
    now := ⟨4010⟩
    here := [] }

/-- A link, and a file of some content behind it. -/
def linkThenFile (content : ByteArray) : Archives := ⟨linkArchive, archiveOf content⟩

theorem pathExists_linked (a : Archives) : (linked a).pathExists turning.directory = false := by
  cbv

theorem makeDirectories_linked (a : Archives) :
    (linked a).makeDirectories turning.directory = (.ok (), linkedMade a) := by
  cbv

theorem isDirectoryAt_linkedMade (a : Archives) :
    (linkedMade a).IsDirectoryAt turning.directory (.ofTexts ["c"]) :=
  ⟨⟨1, .directory, directoryMode, ⟨1⟩⟩, by cbv, rfl⟩

theorem renews_linked {content : ByteArray} (hsize : content.size = 3) :
    (turning.only ["A", "B"]).Renews twoArtifactHost (linked (linkThenFile content))
      (writtenAway content (linkThenFile content)) := by
  have hfirst (a : Archives) :
      Artifact.Holds twoArtifactHost.config (linkedMade a) "A" a.first :=
    ⟨.ofText "./x.tar", by cbv, by cbv⟩
  have hsecond (a : Archives) :
      Artifact.Holds twoArtifactHost.config (linkedAway a) "B" a.second :=
    ⟨.ofText "./y.tar", by cbv, by cbv⟩
  have hleads (a : Archives) :
      (linkedAway a).IsDirectoryAt turning.directory (.ofTexts ["z"]) :=
    ⟨⟨4, .directory, directoryMode, ⟨1⟩⟩, by cbv, rfl⟩
  have hlink (a : Archives) : Tar.unpackMember (.ofTexts ["c"])
      (Tar.climbingLink.member ByteArray.empty) (linkedMade a) = (.ok (), linkedAway a) := by
    simp only [Tar.unpackMember, Tar.names?_climbingLink, Tar.unpackContent_climbingLink]
    cbv
  have hfile (a : Archives) : Tar.unpackMember (.ofTexts ["z"])
      (Tar.threeBytes.member content) (linkedAway a) = (.ok (), writtenAway content a) := by
    rw [Tar.unpackMember_threeBytes]
    cbv
  have hunpackLink := Tar.tar_single Tar.statesMember_climbingLink (by decide)
    (isDirectoryAt_linkedMade (linkThenFile content)) (hlink _)
  have hunpackFile := Tar.tar_archiveOf hsize (hleads (linkThenFile content)) (hfile _)
  exact ⟨_, _, _, .missing (pathExists_linked _), makeDirectories_linked _,
    .cons (hfirst _) hunpackLink (.cons (hsecond _) hunpackFile (.nil _))⟩

theorem exists_fails_linked (content : ByteArray) (hsize : content.size = 3) :
    ∃ w', (turning.ensureCurrent twoArtifactHost).perform
        ⟨linked (linkThenFile content), []⟩ = (.error (.unknownArtifact "C"), w') ∧
      w'.files = writtenAway content (linkThenFile content) := by
  have hstale (a : Archives) : ((turning.isStale twoArtifactHost.config).perform
      ⟨linked a, []⟩).map id World.files = (.ok true, linked a) := by
    cbv
  have hbad (a : Archives) : Artifact.locate twoArtifactHost.config (writtenAway content a) "C" =
      .error (.unknownArtifact "C") := by
    cbv
  obtain ⟨hasked, hfiles⟩ := Prod.ext_iff.mp (hstale (linkThenFile content))
  have hsame : ((turning.isStale twoArtifactHost.config).perform
      ⟨linked (linkThenFile content), []⟩).2.files = linked (linkThenFile content) := hfiles
  have hlist : turning.artifacts = ["A", "B"] ++ "C" :: [] := rfl
  obtain ⟨w', hrenew, hwritten⟩ := perform_renew_of_unresolved hlist
    (hsame ▸ renews_linked hsize) (hbad _)
  refine ⟨w', ?_, hwritten⟩
  rw [perform_ensureCurrent_of_stale (Prod.ext hasked rfl), hrenew]

/-- The path leads to the directory `c`, and led nowhere before. -/
theorem not_covers_linked (a : Archives) : ¬turning.Covers (linked a) (.ofTexts ["z", "f"]) := by
  rintro (⟨hfound, -⟩ | ⟨hclears, hmakes, ⟨e, hstatus, -⟩, hbelow⟩)
  · have hmissing : ((linked a).find turning.directory false).isOk = false := by
      cbv
    rw [hfound] at hmissing
    cases hmissing
  · cases (Clears.missing (pathExists_linked a)).unique hclears
    cases (makeDirectories_linked a).symm.trans hmakes
    obtain ⟨own, hstatus', -⟩ := isDirectoryAt_linkedMade a
    cases hstatus'.symm.trans hstatus
    revert hbelow
    decide

/-- What the second archive wrote was not there before. -/
theorem not_spares_writtenAway (content : ByteArray) (a : Archives) :
    ¬turning.Spares (linked a) (writtenAway content a) (.ofTexts ["z", "f"]) := by
  have hfree : FileSystem.entry? (linked a) (.ofTexts ["z", "f"]) = none := by
    cbv
  have hthere : FileSystem.entry? (writtenAway content a) (.ofTexts ["z", "f"]) =
      some ⟨10, .file content, 0o644, ⟨1000000000⟩⟩ := by
    cbv
  intro hspares
  cases hspares with
  | same h =>
    rw [hthere, hfree] at h
    cases h
  | made _ h hnode =>
    cases hthere.symm.trans h
    cases hnode
  | stamped hbefore => cases hfree.symm.trans hbefore

/-- A path that climbs out of a missing directory leads to a directory that is not empty when the
first artifact fails, before anything was unpacked: the missing directory was made in it. And it may
go through a link in the directory that it leads to, which one archive can put another in the place
of and so send the next elsewhere. -/
theorem failed_fetch_climbing :
    (let copy : Copy := ⟨.ofText "a/b/..", ["B"]⟩
      ∃ w' top, (copy.ensureCurrent oneArtifactHost).perform ⟨bareRoot, []⟩ =
          (.error (.unknownArtifact "B"), w') ∧
        w'.files.IsDirectoryAt copy.directory top ∧ w'.files.treeAt top ≠ Tree.empty) ∧
    let fs := linked (linkThenFile "new".toUTF8)
    fs.WellFormed ∧ twoArtifactHost.unpacker.StaysBelow turning.directory ∧
      ∃ w' l, (turning.ensureCurrent twoArtifactHost).perform ⟨fs, []⟩ =
          (.error (.unknownArtifact "C"), w') ∧
        ¬turning.Covers fs l ∧ ¬turning.Spares fs w'.files l := by
  constructor
  · intro copy
    obtain ⟨houtcome, hfiles⟩ := Prod.ext_iff.mp perform_climbing
    have hclimbed : ((copy.ensureCurrent oneArtifactHost).perform ⟨bareRoot, []⟩).2.files =
        climbedRoot := hfiles
    refine ⟨_, .ofTexts ["a"], Prod.ext houtcome rfl, ?_, ?_⟩
    · rw [hclimbed]
      have hstatus : climbedRoot.status copy.directory =
          .ok (.ofTexts ["a"], ⟨1, .directory, directoryMode, ⟨1010⟩⟩) := by
        cbv
      exact ⟨_, hstatus, rfl⟩
    · rw [hclimbed]
      intro htree
      have hbelow := congrFun htree (.ofTexts ["b"])
      revert hbelow
      decide
  · intro fs
    obtain ⟨w', hfails, hwritten⟩ := exists_fails_linked "new".toUTF8 (by decide)
    have hwell : fs.WellFormed := FileSystem.wellFormed_of_rows (by decide) (by decide)
    refine ⟨hwell, Unpacker.staysBelow_tar turning.directory, w', .ofTexts ["z", "f"], hfails,
      not_covers_linked _, ?_⟩
    rw [hwritten]
    exact not_spares_writtenAway _ _

end Copy

end Launchpad
