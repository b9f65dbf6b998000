import Launchpad.Config.Discovery
import Launchpad.Proofs.Arguments.Classpath
import Launchpad.Proofs.Launch.Layout
import Launchpad.Proofs.Path.Names
import Mathlib

/-!
Whether the jars on the classpath of a child are found from the directory that the child works in.
The classpath is written from the directory of the program itself, so a relative suite root counts
twice once the child works below it. The main statements say for which configurations the jars are
found all the same.
-/

namespace Launchpad

open Arguments Results

/-- What the first classpath flag of an argument list is followed by. -/
def classpathValue? : List String → Option String
  | flag :: value :: rest =>
    if isClasspathFlag flag then some value else classpathValue? (value :: rest)
  | _ => none

namespace Config

/-- The jars that a configuration names for tests, tools included. -/
def testJars (c : Config) : List String := c.classpath.tests ++ c.classpath.tools

/-- How a jar is written on a classpath. -/
def jarEntry (c : Config) (jar : String) : String := (c.suitePath (.ofText jar)).text

theorem testsClasspath_eq_map (c : Config) : c.testsClasspath = c.testJars.map c.jarEntry := rfl

/-- An entry of a classpath, understood in the working directory of a child, goes through the names
that lead to a jar below the suite root. The program itself works in `start`. -/
def Leads (c : Config) (start cwd : Path) (jar entry : String) : Prop :=
  ((start.join cwd).join (.ofText entry)).names =
    (start.join (c.suitePath (.ofText jar))).names

/-- The classpath of a launch splits into one entry for each jar, and each leads to its jar. -/
def FindsJars (c : Config) (start : Path) (launch : Command) : Prop :=
  ∃ value cwd, classpathValue? launch.args = some value ∧ launch.cwd? = some cwd ∧
    ∃ entries, joinClasspath entries = value ∧ (∀ entry ∈ entries, isWhole entry) ∧
      List.Forall₂ (c.Leads start cwd) c.testJars entries

/-- A jar is found from a working directory: its path does not depend on the suite root, or the root
is absolute and can be written on a classpath, or the child works where the program does. -/
def FindsJar (c : Config) (cwd : Path) (jar : String) : Prop :=
  (Path.ofText jar).isAbsolute = true ∨
    (c.suite.directory.isAbsolute = true ∧ c.suite.directory.isSpelled = true ∧
      .char classpathSeparator ∉ c.suite.directory.glyphs) ∨
    (c.suite.directory.isAbsolute = false ∧ cwd.names = [])

/-- A working directory at or below the suite root. -/
structure AtRoot (c : Config) (cwd : Path) : Prop where
  isAbsolute : cwd.isAbsolute = c.suite.directory.isAbsolute
  names : ∃ below, cwd.names = c.suite.directory.names ++ below

theorem AtRoot.names_root_eq_nil {c : Config} {cwd : Path} (h : c.AtRoot cwd)
    (hnone : cwd.names = []) : c.suite.directory.names = [] := by
  obtain ⟨below, hbelow⟩ := h.names
  exact (List.append_eq_nil_iff.mp (hbelow.symm.trans hnone)).1

theorem atRoot_suiteRoot (c : Config) : c.AtRoot c.suite.directory :=
  ⟨rfl, [], (List.append_nil _).symm⟩

theorem atRoot_suitePath (c : Config) {p : Path} (hp : p.isAbsolute = false) :
    c.AtRoot (c.suitePath p) := by
  unfold suitePath
  rw [if_neg (by simp [hp])]
  constructor
  · rw [Path.isAbsolute_join, hp, Bool.false_or]
  · exact ⟨p.names, Path.names_join _ hp⟩

theorem suitePath_of_isAbsolute (c : Config) {p : Path} (hp : p.isAbsolute = true) :
    c.suitePath p = p := if_pos hp

theorem suitePath_of_relative (c : Config) {p : Path} (hp : p.isAbsolute = false) :
    c.suitePath p = c.suite.directory.join p := if_neg (by simp [hp])

theorem isWhole_ofText {jar : String} (hjar : isWhole jar) :
    .char classpathSeparator ∉ (Path.ofText jar).glyphs := by
  rw [← Path.mem_text_iff _ (by decide), Path.text_ofText]
  exact hjar

theorem isWhole_jarEntry_iff (c : Config) {jar : String} (hjar : isWhole jar)
    (hrelative : (Path.ofText jar).isAbsolute = false) :
    isWhole (c.jarEntry jar) ↔ .char classpathSeparator ∉ c.suite.directory.glyphs := by
  unfold isWhole jarEntry
  rw [Path.mem_text_iff _ (by decide), suitePath_of_relative c hrelative,
    Path.mem_glyphs_join hrelative (by decide)]
  simp [isWhole_ofText hjar]

theorem isSpelled_suitePath_iff (c : Config) {jar : String}
    (hrelative : (Path.ofText jar).isAbsolute = false) :
    (c.suitePath (.ofText jar)).isSpelled = true ↔ c.suite.directory.isSpelled = true := by
  have hjar := Path.isSpelled_ofText jar
  rw [suitePath_of_relative c hrelative, Path.isSpelled_join hrelative, hjar, Bool.and_true]

theorem ofText_jarEntry (c : Config) (jar : String) :
    Path.ofText (c.jarEntry jar) = (c.suitePath (.ofText jar)).reread := rfl

theorem isAbsolute_suitePath (c : Config) {jar : String}
    (hrelative : (Path.ofText jar).isAbsolute = false) :
    (c.suitePath (.ofText jar)).isAbsolute = c.suite.directory.isAbsolute := by
  rw [suitePath_of_relative c hrelative, Path.isAbsolute_join, hrelative, Bool.false_or]

/-- Where the root is absolute the entry stands for itself, so it leads to the jar exactly when it
is printed as it is. -/
theorem leads_of_absolute_root_iff (c : Config) (start cwd : Path) {jar : String}
    (hrelative : (Path.ofText jar).isAbsolute = false)
    (hroot : c.suite.directory.isAbsolute = true) :
    c.Leads start cwd jar (c.jarEntry jar) ↔ c.suite.directory.isSpelled = true := by
  have hpath := (isAbsolute_suitePath c hrelative).trans hroot
  have hentry : (c.suitePath (.ofText jar)).reread.isAbsolute = true := by
    rw [Path.isAbsolute_reread, hpath]
  rw [Leads, ofText_jarEntry, Path.join_of_isAbsolute _ hentry, Path.join_of_isAbsolute _ hpath,
    Path.names_reread_eq_iff, isSpelled_suitePath_iff c hrelative]

/-- Where the root is relative the entry goes through the working directory first, so it leads to
the jar exactly when that directory adds no name. -/
theorem leads_of_relative_root_iff (c : Config) (start : Path) {cwd : Path} {jar : String}
    (hcwd : c.AtRoot cwd) (hrelative : (Path.ofText jar).isAbsolute = false)
    (hroot : c.suite.directory.isAbsolute = false) :
    c.Leads start cwd jar (c.jarEntry jar) ↔ cwd.names = [] := by
  have hpath := (isAbsolute_suitePath c hrelative).trans hroot
  have hentry : (c.suitePath (.ofText jar)).reread.isAbsolute = false := by
    rw [Path.isAbsolute_reread, hpath]
  have hwork : cwd.isAbsolute = false := hcwd.isAbsolute.trans hroot
  rw [Leads, ofText_jarEntry, Path.names_join _ hentry, Path.names_join _ hwork,
    Path.names_join _ hpath]
  constructor
  · intro h
    have hlength := congrArg List.length h
    simp only [List.length_append, Path.names_reread, List.length_map] at hlength
    exact List.eq_nil_of_length_eq_zero (by omega)
  · intro hnone
    have hroot := hcwd.names_root_eq_nil hnone
    have hspelled : c.suite.directory.isSpelled = true := by
      rw [Path.isSpelled, List.all_eq_true]
      intro g hg
      rcases Path.glyphs_of_names_eq_nil hroot hg with rfl | rfl <;> rfl
    rw [hnone, List.append_nil, (Path.names_reread_eq_iff _).mpr]
    exact (isSpelled_suitePath_iff c hrelative).mpr hspelled

/-- A jar is found through its entry exactly when the entry is whole and leads to it. -/
theorem findsJar_iff (c : Config) (start : Path) {cwd : Path} {jar : String}
    (hcwd : c.AtRoot cwd) (hjar : isWhole jar) :
    isWhole (c.jarEntry jar) ∧ c.Leads start cwd jar (c.jarEntry jar) ↔ c.FindsJar cwd jar := by
  cases hrelative : (Path.ofText jar).isAbsolute with
  | true =>
    have hentry : c.jarEntry jar = jar := by
      rw [jarEntry, suitePath_of_isAbsolute c hrelative, Path.text_ofText]
    have hleads : c.Leads start cwd jar jar := by
      rw [Leads, suitePath_of_isAbsolute c hrelative, Path.join_of_isAbsolute _ hrelative,
        Path.join_of_isAbsolute _ hrelative]
    rw [hentry]
    exact ⟨fun _ => .inl hrelative, fun _ => ⟨hjar, hleads⟩⟩
  | false =>
    rw [isWhole_jarEntry_iff c hjar hrelative]
    unfold FindsJar
    cases hroot : c.suite.directory.isAbsolute with
    | true =>
      rw [leads_of_absolute_root_iff c start cwd hrelative hroot]
      simp [hrelative, and_comm]
    | false =>
      rw [leads_of_relative_root_iff c start hcwd hrelative hroot]
      simp only [hrelative, Bool.false_eq_true, false_and, false_or, true_and,
        and_iff_right_iff_imp]
      intro hnone hmem
      rcases Path.glyphs_of_names_eq_nil (hcwd.names_root_eq_nil hnone) hmem with h | h
      · revert h
        decide
      · revert h
        decide

/-- A launch that starts with the test jars finds them exactly when it finds each of them. -/
theorem findsJars_iff (c : Config) (start : Path) {cwd : Path} {launch : Command}
    {rest : List String} (hcwd : c.AtRoot cwd) (hjars : ∀ jar ∈ c.testJars, isWhole jar)
    (hargs : launch.args = "-ea" :: "-esa" :: "-cp" :: joinClasspath c.testsClasspath :: rest)
    (hwork : launch.cwd? = some cwd) :
    c.FindsJars start launch ↔ ∀ jar ∈ c.testJars, c.FindsJar cwd jar := by
  have hvalue : classpathValue? launch.args = some (joinClasspath c.testsClasspath) := by
    rw [hargs]
    rfl
  have hentries : c.FindsJars start launch ↔
      ∃ entries, joinClasspath entries = joinClasspath (c.testJars.map c.jarEntry) ∧
        (∀ entry ∈ entries, isWhole entry) ∧
        List.Forall₂ (c.Leads start cwd) c.testJars entries := by
    simp only [FindsJars, hvalue, hwork, Option.some.injEq, testsClasspath_eq_map]
    constructor
    · rintro ⟨_, _, rfl, rfl, h⟩
      exact h
    · intro h
      exact ⟨_, _, rfl, rfl, h⟩
  rw [hentries, exists_entries_iff]
  constructor
  · intro h jar hjar
    exact (findsJar_iff c start hcwd (hjars jar hjar)).mp (h jar hjar)
  · intro h jar hjar
    exact (findsJar_iff c start hcwd (hjars jar hjar)).mpr (h jar hjar)

end Config

/-! ### The two launches that test -/

theorem partition_of_no_flag {args : List String}
    (hargs : ∀ arg ∈ args, isClasspathFlag arg = false) :
    ∃ parts, partition args [] false = .ok parts := by
  obtain ⟨s, hs, -⟩ := sort_of_no_flag hargs
  exact ⟨_, map_eq_ok.mpr ⟨s, hs, rfl⟩⟩

theorem TestSuite.workPath_atRoot (suite : TestSuite) (arch : Arch) (c : Config) :
    c.AtRoot ((suite.profile arch).workPath c) := by
  cases suite with
  | test262 => exact c.atRoot_suiteRoot
  | testNashorn =>
    have hrelative : (Path.ofText "lib/testnashorn").isAbsolute = false := by decide
    exact c.atRoot_suitePath hrelative
  | testV8 => exact c.atRoot_suiteRoot

/-- The launches that test are made whatever the jars are, and each finds its jars exactly when
every relative one lies below an absolute root that can be written on a classpath, or the child
works where the program does. -/
theorem launches_find_jars_iff {host : Host} {args : List String} (start : Path)
    (suite : TestSuite) (trailing : List String)
    (hjars : ∀ jar ∈ host.config.testJars, isWhole jar)
    (hargs : ∀ arg ∈ args, isClasspathFlag arg = false) :
    let profile := suite.profile host.arch
    (∃ launch, profile.command host args = .ok launch ∧
      (host.config.FindsJars start launch ↔
        ∀ jar ∈ host.config.testJars, host.config.FindsJar (profile.workPath host.config) jar)) ∧
    (∃ launch, UnitTests.command host args trailing = .ok launch ∧
      (host.config.FindsJars start launch ↔
        ∀ jar ∈ host.config.testJars,
          host.config.FindsJar host.config.suite.directory jar)) := by
  intro profile
  obtain ⟨parts, hparts⟩ := partition_of_no_flag hargs
  constructor
  · exact ⟨_, profile.command_of_partition host hparts,
      host.config.findsJars_iff start (suite.workPath_atRoot host.arch host.config) hjars rfl rfl⟩
  · exact ⟨_, UnitTests.command_of_partition host trailing hparts,
      host.config.findsJars_iff start host.config.atRoot_suiteRoot hjars rfl rfl⟩

/-- An absolute suite root with a relative and an absolute jar. -/
theorem launches_find_jars_of_absolute_root :
    let host : Host :=
      { config :=
          { suite := { directory := .ofText "/js" }
            classpath := { tests := ["a.jar", "/opt/t.jar"], tools := ["./b.jar"] } }
        executor := ⟨fun _ _ w => ⟨.ok (0, ""), w.files, []⟩⟩
        arch := .standard }
    let profile := TestSuite.testNashorn.profile .standard
    (∃ launch, profile.command host ["-Dx", "y"] = .ok launch ∧
      (host.config.FindsJars (.ofText "/work") launch ↔
        ∀ jar ∈ host.config.testJars, host.config.FindsJar (profile.workPath host.config) jar)) ∧
    (∃ launch, UnitTests.command host ["-Dx", "y"] [] = .ok launch ∧
      (host.config.FindsJars (.ofText "/work") launch ↔
        ∀ jar ∈ host.config.testJars,
          host.config.FindsJar host.config.suite.directory jar)) :=
  launches_find_jars_iff (.ofText "/work") .testNashorn [] (by decide) (by decide)

/-- A working directory with a configuration in it that names one jar for tests, and nothing else.
-/
def Config.besideOneJar : FileSystem :=
  { entries :=
      [([], ⟨0, .directory, directoryMode, ⟨0⟩⟩),
        (.ofTexts ["work"], ⟨1, .directory, directoryMode, ⟨0⟩⟩),
        (.ofTexts ["work", "jsgate.toml"],
          ⟨2, .file "classpath.tests = [\"a.jar\"]\n".toUTF8, fileMode, ⟨0⟩⟩)]
    nextSerial := 3
    now := ⟨0⟩
    here := .ofTexts ["work"] }

theorem Config.loadFrom_besideOneJar :
    Config.loadFrom Config.besideOneJar Config.localFile =
      .ok { classpath := { tests := ["a.jar"] } } := by
  cbv

/-- The configuration of one jar is loaded and its suite is launched below the suite root, where the
jar is not found: the relative root counts twice. -/
theorem one_jar_not_found :
    ∃ c launch, Config.loadFrom Config.besideOneJar Config.localFile = .ok c ∧
      (∀ jar ∈ c.testJars, isWhole jar) ∧
      (TestSuite.testNashorn.profile .standard).command
        { config := c, executor := ⟨fun _ _ w => ⟨.ok (0, ""), w.files, []⟩⟩, arch := .standard }
        [] = .ok launch ∧
      ¬c.FindsJars Config.besideOneJar.here.toPath launch := by
  let c : Config := { classpath := { tests := ["a.jar"] } }
  have hjars : ∀ jar ∈ c.testJars, isWhole jar := by decide
  have hparts : partition [] [] false = .ok ⟨[], [], []⟩ := by decide
  have hroot : c.AtRoot ((TestSuite.testNashorn.profile .standard).workPath c) :=
    TestSuite.testNashorn.workPath_atRoot .standard c
  have hlaunch := (TestSuite.testNashorn.profile .standard).command_of_partition
    ⟨c, ⟨fun _ _ w => ⟨.ok (0, ""), w.files, []⟩⟩, .standard, .tar⟩ hparts
  refine ⟨c, _, Config.loadFrom_besideOneJar, hjars, hlaunch, fun hfinds => ?_⟩
  have hfound := (c.findsJars_iff _ hroot hjars rfl rfl).mp hfinds "a.jar" (by decide)
  revert hfound
  simp only [Config.FindsJar]
  decide

end Launchpad
