import Launchpad.Launch.Conformance
import Launchpad.Launch.SmokeTests
import Launchpad.Proofs.Config.Candidates
import Launchpad.Proofs.FileSystem.Ancestors
import Launchpad.Proofs.FileSystem.Links
import Launchpad.Proofs.Launch.Jars

/-!
A configuration file that is named relatively, and the same file by its absolute name. The suite
root moves along with the name, so both configurations speak of the same files. Two things are lost
on the way: an absolute name may be too much for the system, by its length or by its links, and what
stands on a classpath is printed, so that a working directory which is no text is not found there.
-/

namespace Launchpad.Config

open FileSystem

variable {fs : FileSystem} {base p file parent : Path} {c c' stated : Config}

/-! ### The suite root -/

theorem suitePath_eq_join (c : Config) (a : Path) : c.suitePath a = c.suite.directory.join a := by
  cases ha : a.isAbsolute with
  | true => rw [suitePath_of_isAbsolute c ha, Path.join_of_isAbsolute _ ha]
  | false => exact suitePath_of_relative c ha

theorem rebase_eq (c : Config) (h : file.parent? = some parent) :
    c.rebase file =
      { c with suite := { c.suite with directory := parent.join c.suite.directory } } := by
  unfold rebase
  cases hroot : c.suite.directory.isAbsolute with
  | true =>
    rw [Path.join_of_isAbsolute parent hroot]
    rfl
  | false =>
    rw [h]
    rfl

theorem validate_rebase (c : Config) (file : Path) : (c.rebase file).validate = c.validate := by
  unfold rebase
  split
  · rfl
  · split <;> rfl

/-- A file is loaded the same under another name, but for the suite root. -/
theorem loadFrom_of_readFile_eq {file' : Path} (h : loadFrom fs file = .ok c)
    (hread : fs.readFile file' = fs.readFile file) :
    ∃ stated : Config, c = stated.rebase file ∧ loadFrom fs file' = .ok (stated.rebase file') := by
  obtain ⟨text, stated, htext, hstated, rfl, hvalid⟩ := loadFrom_eq_ok.mp h
  refine ⟨stated, rfl, loadFrom_eq_ok.mpr ⟨text, stated, ?_, hstated, rfl, ?_⟩⟩
  · unfold readText at htext ⊢
    rw [hread]
    revert htext
    cases fs.readFile file with
    | error cause => exact fun h => nomatch h
    | ok content =>
      simp only
      cases Text.decode? content with
      | none => exact fun h => nomatch h
      | some text => exact id
  · rw [validate_rebase] at hvalid ⊢
    exact hvalid

/-- A path without names leads to a directory, so no file is read from it. -/
theorem names_ne_nil_of_readFile {content : ByteArray} (hp : p.isAbsolute = false)
    (h : fs.readFile p = .ok content) : p.names ≠ [] := by
  intro hnames
  unfold readFile at h
  cases hstatus : fs.status p with
  | error cause =>
    rw [hstatus] at h
    cases h
  | ok x =>
    obtain ⟨hsought, hwalk⟩ := walk_of_status hstatus
    have hdots : p.pieces.filter isNotHere = [] := by rw [filter_isNotHere_pieces, hnames]
    obtain ⟨hstays, hsearch⟩ := walk_nil_of_filter_eq hwalk hdots
    have hempty : p.isEmpty = false := by simpa using hsought.2.1
    obtain ⟨d, hd, hdirectory⟩ :=
      exists_directory_of_searchable (hsearch (Path.pieces_ne_nil hp hempty))
    have hfound := eq_of_walk_nil hstays
    simp only [hd, Found.mk.injEq, Option.some.injEq] at hfound
    obtain ⟨l, e⟩ := x
    simp only at hfound
    simp only [hstatus, hfound.2, bind, Except.bind] at h
    split at h
    · cases h
    · rw [of_decide_eq_true hdirectory] at h
      cases h

/-! ### Two configurations of one file -/

/-- An entry of a classpath names what another one names, where it does not depend on the directory
`base` or that directory is printed as it is. -/
def SameEntry (base : Path) (entry entry' : String) : Prop :=
  base.isSpelled = true ∨ (Path.ofText entry).isAbsolute = true →
    SameFile base (.ofText entry) (.ofText entry')

/-- Two configurations differ in nothing but the suite root, and they name the same files, the first
as it is understood from the directory `base`. -/
structure Agree (base : Path) (c c' : Config) : Prop where
  settings : c' = { c with suite := { c.suite with directory := c'.suite.directory } }
  paths : ∀ a : Path, SameFile base (c.suitePath a) (c'.suitePath a)
  archives : ∀ name, Option.Rel (SameFile base) ((c.artifacts.lookup name).map c.suitePath)
    ((c'.artifacts.lookup name).map c'.suitePath)
  destinations : ∀ profile : SuiteProfile,
    SameFile base (profile.copy c).directory (profile.copy c').directory
  smokeTests : SameFile base (c.suitePath SmokeTests.directory) (c'.suitePath SmokeTests.directory)
  launcher : List.Forall₂ (SameEntry base) c.launcherClasspath c'.launcherClasspath
  tests : List.Forall₂ (SameEntry base) c.testsClasspath c'.testsClasspath

theorem sameEntry_jarEntry {jar : String} (hbase : base.isAbsolute = true)
    (h : SameFile base (c.suitePath (.ofText jar)) (c'.suitePath (.ofText jar))) :
    SameEntry base (c.jarEntry jar) (c'.jarEntry jar) := by
  intro hspelled
  rw [ofText_jarEntry, Path.isAbsolute_reread] at hspelled
  rw [ofText_jarEntry, ofText_jarEntry]
  exact sameFile_of_sameParts hbase ((Path.sameParts_join_reread hspelled).trans h.parts.reread)

theorem agree_of_sameParts (hbase : base.isAbsolute = true)
    (hsettings : c' = { c with suite := { c.suite with directory := c'.suite.directory } })
    (hroot : Path.SameParts (base.join c.suite.directory) c'.suite.directory) :
    Agree base c c' := by
  have hpaths (a : Path) : SameFile base (c.suitePath a) (c'.suitePath a) := by
    rw [suitePath_eq_join, suitePath_eq_join]
    exact sameFile_of_sameParts hbase ((Path.sameParts_join_assoc base _ a).trans (hroot.join a))
  have hartifacts : c'.artifacts = c.artifacts := by rw [hsettings]
  have hclasspath : c'.classpath = c.classpath := by rw [hsettings]
  have hentries (jars : List String) :
      List.Forall₂ (SameEntry base) (jars.map c.jarEntry) (jars.map c'.jarEntry) := by
    rw [List.forall₂_map_left_iff, List.forall₂_map_right_iff, List.forall₂_same]
    exact fun jar _ => sameEntry_jarEntry hbase (hpaths _)
  refine ⟨hsettings, hpaths, fun name => ?_, fun profile => hpaths _, hpaths _, ?_, ?_⟩
  · rw [hartifacts]
    cases c.artifacts.lookup name with
    | none => exact .none
    | some relative => exact .some (hpaths relative)
  · have hlauncher := hentries (c.classpath.launcher ++ c.classpath.tools)
    rw [launcherClasspath, launcherClasspath, withTools, withTools, hclasspath]
    exact hlauncher
  · have htests := hentries c.testJars
    rw [testsClasspath_eq_map, testsClasspath_eq_map, testJars, testJars, hclasspath]
    exact htests

theorem exists_readFile_of_loadFrom (h : loadFrom fs file = .ok c) :
    (∃ content, fs.readFile file = .ok content) ∧ ∃ x, fs.status file = .ok x := by
  obtain ⟨text, -, htext, -⟩ := loadFrom_eq_ok.mp h
  unfold readText at htext
  cases hread : fs.readFile file with
  | error cause =>
    rw [hread] at htext
    cases htext
  | ok content =>
    refine ⟨⟨content, rfl⟩, ?_⟩
    unfold readFile at hread
    cases hstatus : fs.status file with
    | error cause =>
      rw [hstatus] at hread
      cases hread
    | ok x => exact ⟨x, rfl⟩

/-- Moved to the directories of one file under its two names, a configuration names the same. -/
theorem agree_rebase (stated : Config) (hbase : base.isAbsolute = true) (hp : p.isAbsolute = false)
    (hnames : p.names ≠ []) : Agree base (stated.rebase p) (stated.rebase (base.join p)) := by
  obtain ⟨parent, hparent⟩ := Path.exists_parent? hnames
  obtain ⟨parent', hparent', hparts⟩ := Path.sameParts_parent_join base hp hnames hparent
  rw [rebase_eq stated hparent, rebase_eq stated hparent']
  exact agree_of_sameParts hbase rfl
    ((Path.sameParts_join_assoc base parent _).trans (hparts.join _))

/-- The absolute name of a configuration file stands for the same configuration as its relative one,
unless the system refuses the file under that name. -/
theorem absolute_name_agrees (hbase : fs.IsHere base) (hp : p.isAbsolute = false)
    (hload : loadFrom fs p = .ok c) :
    (pathLimit < (base.join p).bytes.length →
      loadFrom fs (base.join p) = .error (.unreadable (base.join p) (.os .nameTooLong))) ∧
    ((base.join p).bytes.length ≤ pathLimit →
      (∃ c', loadFrom fs (base.join p) = .ok c' ∧ Agree base c c') ∨
        ¬fs.IsDirectlyHere base ∧
          loadFrom fs (base.join p) = .error (.unreadable (base.join p) (.os .linkLoop))) := by
  have hrefused {cause : IoError} (h : fs.status (base.join p) = .error cause) :
      loadFrom fs (base.join p) = .error (.unreadable (base.join p) cause) := by
    rw [loadFrom, readText, readFile, h]
    rfl
  obtain ⟨⟨content, hread⟩, x, hstatus⟩ := exists_readFile_of_loadFrom hload
  obtain ⟨hlong, hfits⟩ := hbase.status_join hp hstatus
  refine ⟨fun h => hrefused (hlong h), fun h => ?_⟩
  rcases hfits h with hsame | ⟨hlinks, hloop⟩
  · -- The same entry is read, so only the move to the directory of the file differs.
    have hread' : fs.readFile (base.join p) = fs.readFile p := by
      rw [readFile, readFile, hsame, hstatus]
    obtain ⟨stated, rfl, hload'⟩ := loadFrom_of_readFile_eq hload hread'
    exact .inl ⟨_, hload', agree_rebase stated hbase.isAbsolute hp
      (names_ne_nil_of_readFile hp hread)⟩
  · exact .inr ⟨hlinks, hrefused hloop⟩

/-! ### A working directory with two names -/

/-- A name of one byte that is no text. -/
def byteName : Name := [.broken [0xff]]

/-- A working directory with a configuration in it that names one jar for tests, and with a link to
itself. A link at the root, whose name is no text, leads to it as well. -/
def linkedWork : FileSystem :=
  { entries :=
      [([], ⟨0, .directory, directoryMode, ⟨0⟩⟩),
        (.ofTexts ["work"], ⟨1, .directory, directoryMode, ⟨0⟩⟩),
        (.ofTexts ["work", "jsgate.toml"],
          ⟨2, .file "classpath.tests = [\"a.jar\"]\n".toUTF8, fileMode, ⟨0⟩⟩),
        (.ofTexts ["work", "again"], ⟨3, .link (.ofText "."), directoryMode, ⟨0⟩⟩),
        ([byteName], ⟨4, .link (.ofText "work"), directoryMode, ⟨0⟩⟩)]
    nextSerial := 5
    now := ⟨0⟩
    here := .ofTexts ["work"] }

def workName : Path := .ofText "/work"

/-- The name of the link to the working directory. -/
def linkName : Path := ⟨Path.separator :: byteName⟩

theorem isHere_workName : linkedWork.IsHere workName :=
  ⟨by decide, by decide, 0, ⟨1, .directory, directoryMode, ⟨0⟩⟩, by cbv⟩

theorem isHere_linkName : linkedWork.IsHere linkName :=
  ⟨by decide, by decide, 1, ⟨1, .directory, directoryMode, ⟨0⟩⟩, by cbv⟩

theorem loadFrom_linkedWork :
    loadFrom linkedWork localFile = .ok { classpath := { tests := ["a.jar"] } } := by
  have hread : linkedWork.readFile localFile = besideOneJar.readFile localFile := by cbv
  rw [loadFrom_congr hread, loadFrom_besideOneJar]

theorem absolute_name_agrees_in_linkedWork :
    linkedWork.IsHere workName ∧
      ∃ c', loadFrom linkedWork (workName.join localFile) = .ok c' ∧
        Agree workName { classpath := { tests := ["a.jar"] } } c' := by
  have hfits : (workName.join localFile).bytes.length ≤ pathLimit := by cbv
  have hdirectly : linkedWork.IsDirectlyHere workName :=
    ⟨⟨1, .directory, directoryMode, ⟨0⟩⟩, by cbv⟩
  refine ⟨isHere_workName, ?_⟩
  rcases (absolute_name_agrees isHere_workName (by decide) loadFrom_linkedWork).2 hfits with
    hagrees | ⟨hlinks, -⟩
  · exact hagrees
  · exact absurd hdirectly hlinks

/-- The file, with a name in front of it so many times. -/
def behind (name : String) : Nat → Path
  | 0 => localFile
  | n + 1 => (Path.ofText name).join (behind name n)

theorem isAbsolute_behind {name : String} (hname : (Path.ofText name).isAbsolute = false)
    (n : Nat) : (behind name n).isAbsolute = false := by
  induction n with
  | zero => rfl
  | succ n ih =>
    rw [behind, Path.isAbsolute_join, ih, hname]
    rfl

theorem glyphs_behind_dot (n : Nat) :
    (behind "." (n + 1)).glyphs = .char '.' :: Path.separator :: (behind "." n).glyphs := by
  have hrelative : (behind "." n).isAbsolute = false := isAbsolute_behind (by decide) n
  rw [behind, Path.join, if_neg (by simp [hrelative]), if_neg (by decide)]
  rfl

/-- A relative path that ends in a name. -/
structure NamesFile (p : Path) : Prop where
  isAbsolute : p.isAbsolute = false
  isEmpty : p.isEmpty = false
  endsInSlash : p.endsInSlash = false

theorem namesFile_behind_dot (n : Nat) : NamesFile (behind "." n) := by
  induction n with
  | zero => exact ⟨by decide, by decide, by decide⟩
  | succ n ih =>
    refine ⟨isAbsolute_behind (by decide) _, by simp [Path.isEmpty, glyphs_behind_dot], ?_⟩
    rw [behind, Path.endsInSlash_join _ ih.isAbsolute ih.isEmpty]
    exact ih.endsInSlash

theorem length_bytes_behind_dot (n : Nat) : (behind "." n).bytes.length = 2 * n + 11 := by
  induction n with
  | zero => cbv
  | succ n ih =>
    have hdot : (Text.Glyph.char '.').bytes.length = 1 := by cbv
    have hslash : Path.separator.bytes.length = 1 := by cbv
    have hmore : (behind "." (n + 1)).bytes =
        (Text.Glyph.char '.').bytes ++ (Path.separator.bytes ++ (behind "." n).bytes) := by
      rw [Path.bytes, glyphs_behind_dot]
      rfl
    rw [hmore, List.length_append, List.length_append, hdot, hslash, ih]
    omega

theorem isSought_behind_dot {n : Nat} (hn : 2 * n + 11 ≤ pathLimit) : isSought (behind "." n) := by
  refine ⟨?_, ?_, by rw [length_bytes_behind_dot]; omega⟩
  · clear hn
    induction n with
    | zero => decide
    | succ n ih =>
      rw [glyphs_behind_dot]
      simpa [Path.separator] using ih
  · simp [(namesFile_behind_dot n).isEmpty]

/-- Dots in front of the file do not matter. -/
theorem status_behind_dot {n : Nat} (hn : 2 * n + 11 ≤ pathLimit) :
    linkedWork.status (behind "." n) = linkedWork.status localFile := by
  have hwalk (n : Nat) :
      linkedWork.walk true linkLimit linkedWork.here (behind "." n).pieces false =
        linkedWork.walk true linkLimit linkedWork.here localFile.pieces false := by
    induction n with
    | zero => rfl
    | succ n ih =>
      have hdot : (Path.ofText ".").pieces = [[.char '.']] := by decide
      have hsearch : linkedWork.searchable linkedWork.here = .ok () := by cbv
      rw [behind, Path.pieces_join _ (namesFile_behind_dot n).isAbsolute, hdot,
        List.singleton_append, walk_here hsearch, ih]
  have hlocate {n : Nat} (hn : 2 * n + 11 ≤ pathLimit) : linkedWork.locate (behind "." n) true =
      (linkedWork.walk true linkLimit linkedWork.here localFile.pieces false).mapError .os := by
    have hfile := namesFile_behind_dot n
    rw [locate_of_isSought (isSought_behind_dot hn), startOf, hfile.isAbsolute, hfile.endsInSlash,
      ← hwalk n]
    rfl
  have hplain : linkedWork.locate localFile true = _ := hlocate (n := 0) (by decide)
  rw [status, status, find, find, hlocate hn, hplain]

set_option maxRecDepth 20000 in
theorem status_behind_again :
    linkedWork.status (behind "again" 40) = linkedWork.status localFile := by
  cbv

set_option maxRecDepth 20000 in
theorem status_linkName_behind_again :
    linkedWork.status (linkName.join (behind "again" 40)) = .error (.os .linkLoop) := by
  cbv

theorem rebase_localFile (c : Config) : c.rebase localFile = c := by
  have hparent : localFile.parent? = some ⟨[]⟩ := by decide
  have hjoin : Path.join ⟨[]⟩ c.suite.directory = c.suite.directory := ite_self _
  rw [rebase_eq c hparent, hjoin]

theorem loadFrom_of_status (h : linkedWork.status file = linkedWork.status localFile) :
    loadFrom linkedWork file = .ok (rebase { classpath := { tests := ["a.jar"] } } file) := by
  have hread : linkedWork.readFile file = linkedWork.readFile localFile := by
    rw [readFile, readFile, h]
  obtain ⟨stated, hstated, hload⟩ := loadFrom_of_readFile_eq loadFrom_linkedWork hread
  rw [hload, hstated, rebase_localFile]

theorem loadFrom_ne_ok_of_status {cause : IoError} (h : fs.status file = .error cause)
    (c : Config) : loadFrom fs file ≠ .ok c := by
  intro hload
  obtain ⟨-, x, hx⟩ := exists_readFile_of_loadFrom hload
  rw [h] at hx
  cases hx

theorem status_workName_behind_dot :
    linkedWork.status (workName.join (behind "." 2040)) = .error (.os .nameTooLong) := by
  obtain ⟨-, x, hx⟩ := exists_readFile_of_loadFrom loadFrom_linkedWork
  have hrelative : (behind "." 2040).isAbsolute = false := isAbsolute_behind (by decide) _
  refine (isHere_workName.status_join hrelative ((status_behind_dot (by decide)).trans hx)).1 ?_
  have hbytes : (workName.join (behind "." 2040)).bytes =
      workName.bytes ++ (Path.separator.bytes ++ (behind "." 2040).bytes) := by
    rw [Path.join, if_neg (by simp [hrelative]), if_neg (by decide)]
    simp only [Path.bytes, Name.bytes, List.flatMap_append, List.flatMap_cons]
  have hslash : Path.separator.bytes.length = 1 := by cbv
  have hwork : workName.bytes.length = 5 := by cbv
  rw [hbytes, List.length_append, List.length_append, hslash, hwork, length_bytes_behind_dot]
  decide

/-- The absolute name fails where the relative one does not, by its length or by the links in it,
and on a classpath a directory that is no text is not found. -/
theorem absolute_name_differs :
    linkedWork.IsHere workName ∧ linkedWork.IsHere linkName ∧
      (∃ c, loadFrom linkedWork (behind "." 2040) = .ok c ∧
        ∀ c', loadFrom linkedWork (workName.join (behind "." 2040)) ≠ .ok c') ∧
      (∃ c, loadFrom linkedWork (behind "again" 40) = .ok c ∧
        ∀ c', loadFrom linkedWork (linkName.join (behind "again" 40)) ≠ .ok c') ∧
      ∃ c c', loadFrom linkedWork localFile = .ok c ∧
        loadFrom linkedWork (linkName.join localFile) = .ok c' ∧
        ¬List.Forall₂ (fun entry entry' =>
          Path.SameParts (linkName.join (.ofText entry)) (.ofText entry'))
            c.testsClasspath c'.testsClasspath := by
  have hlinked : linkedWork.status (linkName.join localFile) = linkedWork.status localFile := by
    cbv
  refine ⟨isHere_workName, isHere_linkName,
    ⟨_, loadFrom_of_status (status_behind_dot (by decide)),
      loadFrom_ne_ok_of_status status_workName_behind_dot⟩,
    ⟨_, loadFrom_of_status status_behind_again,
      loadFrom_ne_ok_of_status status_linkName_behind_again⟩,
    _, _, loadFrom_linkedWork, loadFrom_of_status hlinked, fun hall => ?_⟩
  have hentry : testsClasspath { classpath := { tests := ["a.jar"] } } = ["./a.jar"] := by decide
  have hentry' : testsClasspath (rebase { classpath := { tests := ["a.jar"] } }
      (linkName.join localFile)) = ["/\uFFFD/./a.jar"] := by decide
  rw [hentry, hentry', List.forall₂_cons] at hall
  have hnames := hall.1.names
  revert hnames
  decide

end Launchpad.Config
