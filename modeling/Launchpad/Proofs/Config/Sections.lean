import Launchpad.Config.Overlay
import Mathlib.Data.List.Induction
import Mathlib.Data.List.Nodup

/-!
The fields of a configuration as data: the section that each stands in, its key, the kind of value
that it takes, and where the configuration keeps it. Reading a section lays its fields over the
defaults, one like the other. The section of the archives has free names, so it is read whole: what
is made of it are the paths of all its entries, in the order of their names.
-/

namespace Launchpad.Config

open Toml (Value Table)

/-- The kinds of values that fields take. -/
inductive Kind where
  | text
  | path
  | texts
  deriving DecidableEq, Repr

namespace Kind

/-- What a value of a kind stands for. -/
def Meaning : Kind → Type
  | text => String
  | path => Path
  | texts => List String

/-- What a value of TOML stands for as a value of a kind. -/
inductive Means : (kind : Kind) → Value → kind.Meaning → Prop where
  | text (s : String) : Means text (.string s) s
  | path (s : String) : Means path (.string s) (Path.ofText s)
  | texts (ss : List String) : Means texts (.array (ss.map .string)) ss

def read : (kind : Kind) → Value → Option kind.Meaning
  | text => asText
  | path => asPath
  | texts => asTexts

end Kind

theorem asText_eq_some_iff {v : Value} {s : String} : asText v = some s ↔ v = .string s := by
  cases v <;> simp [asText]

/-- A list is read when each of its members is. -/
theorem mapM_eq_some_iff {α β : Type} {f : α → Option β} {xs : List α} {ys : List β} :
    xs.mapM f = some ys ↔ xs.map f = ys.map some := by
  induction xs generalizing ys with
  | nil => cases ys <;> simp
  | cons x xs ih =>
    rw [List.mapM_cons]
    simp only [bind, Option.bind_eq_some_iff, ih]
    constructor
    · rintro ⟨y, hfirst, rest, hrest, heq⟩
      cases heq
      rw [List.map_cons, List.map_cons, hfirst, hrest]
    · intro h
      cases ys with
      | nil => cases h
      | cons y rest =>
        rw [List.map_cons, List.map_cons, List.cons.injEq] at h
        exact ⟨y, h.1, rest, h.2, rfl⟩

theorem mapM_asText_eq_some_iff {items : List Value} {ss : List String} :
    items.mapM asText = some ss ↔ items = ss.map .string := by
  rw [mapM_eq_some_iff]
  constructor
  · intro h
    induction ss generalizing items with
    | nil => exact List.map_eq_nil_iff.mp h
    | cons s rest ih =>
      obtain ⟨item, items, rfl, hfirst, hrest⟩ := List.map_eq_cons_iff.mp h
      rw [List.map_cons, ← asText_eq_some_iff.mp hfirst, ← ih hrest]
  · rintro rfl
    rw [List.map_map]
    rfl

theorem Kind.read_eq_some_iff {kind : Kind} {v : Value} {x : kind.Meaning} :
    kind.read v = some x ↔ kind.Means v x := by
  cases kind with
  | text =>
    refine asText_eq_some_iff.trans ⟨?_, ?_⟩
    · rintro rfl
      exact .text x
    · rintro ⟨⟩
      rfl
  | path =>
    refine Option.map_eq_some_iff.trans ⟨?_, ?_⟩
    · rintro ⟨s, hs, rfl⟩
      rw [asText_eq_some_iff.mp hs]
      exact .path s
    · rintro ⟨⟩
      exact ⟨_, rfl, rfl⟩
  | texts =>
    constructor
    · intro h
      cases v with
      | array items =>
        cases mapM_asText_eq_some_iff.mp h
        exact .texts x
      | _ => cases h
    · rintro ⟨⟩
      exact mapM_asText_eq_some_iff.mpr rfl

/-- A value laid over a default: the default where nothing is given, and what is given otherwise. -/
inductive Kind.Overlays (kind : Kind) (fallback : kind.Meaning) :
    Option Value → kind.Meaning → Prop where
  | absent : Overlays kind fallback none fallback
  | given {v : Value} {x : kind.Meaning} (h : kind.Means v x) : Overlays kind fallback (some v) x

theorem field_eq_some_iff (kind : Kind) {fields : Table} {key : String}
    {fallback x : kind.Meaning} :
    field fields key fallback kind.read = some x ↔
      kind.Overlays fallback (fields.lookup key) x := by
  unfold field
  cases fields.lookup key with
  | none =>
    constructor
    · intro h
      cases h
      exact .absent
    · rintro ⟨⟩
      rfl
  | some v =>
    refine Kind.read_eq_some_iff.trans ⟨.given, fun h => ?_⟩
    cases h with
    | given h => exact h

/-! ### Sections and their fields -/

/-- The sections with fields of their own; that of the archives has none. -/
inductive Section where
  | suite
  | classpath
  | launcher
  | unitTest
  | deploy
  deriving DecidableEq, Repr

namespace Section

def name : Section → String
  | suite => "suite"
  | classpath => "classpath"
  | launcher => "launcher"
  | unitTest => "unittest"
  | deploy => "deploy"

def Part : Section → Type
  | suite => SuiteSection
  | classpath => ClasspathSection
  | launcher => LauncherSection
  | unitTest => UnitTestSection
  | deploy => DeploySection

def read : (s : Section) → Value → Option s.Part
  | suite => readSuite
  | classpath => readClasspath
  | launcher => readLauncher
  | unitTest => readUnitTest
  | deploy => readDeploy

def part : (s : Section) → Config → s.Part
  | suite => Config.suite
  | classpath => Config.classpath
  | launcher => Config.launcher
  | unitTest => Config.unitTest
  | deploy => Config.deploy

end Section

inductive Field where
  | suiteDirectory
  | java
  | primaryBranch
  | launcherJars
  | testJars
  | toolJars
  | mainClass
  | legacyMainClass
  | testMainClass
  | testPackage
  | scriptEnginePackage
  | deployCommand
  deriving DecidableEq, Repr

namespace Field

def place : Field → Section
  | suiteDirectory | java | primaryBranch => .suite
  | launcherJars | testJars | toolJars => .classpath
  | mainClass | legacyMainClass => .launcher
  | testMainClass | testPackage | scriptEnginePackage => .unitTest
  | deployCommand => .deploy

def key : Field → String
  | suiteDirectory => "dir"
  | java => "java"
  | primaryBranch => "primary_branch"
  | launcherJars => "launcher"
  | testJars => "tests"
  | toolJars => "tools"
  | mainClass => "main_class"
  | legacyMainClass => "legacy_main_class"
  | testMainClass => "main_class"
  | testPackage => "package"
  | scriptEnginePackage => "scriptengine_package"
  | deployCommand => "command"

/-- The kind of value that a field takes. -/
def kind : Field → Kind
  | suiteDirectory => .path
  | launcherJars | testJars | toolJars | deployCommand => .texts
  | _ => .text

def get : (f : Field) → Config → f.kind.Meaning
  | suiteDirectory, c => c.suite.directory
  | java, c => c.suite.java
  | primaryBranch, c => c.suite.primaryBranch
  | launcherJars, c => c.classpath.launcher
  | testJars, c => c.classpath.tests
  | toolJars, c => c.classpath.tools
  | mainClass, c => c.launcher.mainClass
  | legacyMainClass, c => c.launcher.legacyMainClass
  | testMainClass, c => c.unitTest.mainClass
  | testPackage, c => c.unitTest.package
  | scriptEnginePackage, c => c.unitTest.scriptEnginePackage
  | deployCommand, c => c.deploy.command

end Field

/-- The fields of a section are laid over the defaults. -/
def Section.Overlays (s : Section) (fields : Table) (c : Config) : Prop :=
  ∀ f : Field, f.place = s → f.kind.Overlays (f.get {}) (fields.lookup f.key) (f.get c)

theorem field_asText_eq_some_iff {fields : Table} {key fallback x : String} :
    field fields key fallback asText = some x ↔
      Kind.text.Overlays fallback (fields.lookup key) x :=
  field_eq_some_iff .text

theorem field_asPath_eq_some_iff {fields : Table} {key : String} {fallback x : Path} :
    field fields key fallback asPath = some x ↔
      Kind.path.Overlays fallback (fields.lookup key) x :=
  field_eq_some_iff .path

theorem field_asTexts_eq_some_iff {fields : Table} {key : String} {fallback x : List String} :
    field fields key fallback asTexts = some x ↔
      Kind.texts.Overlays fallback (fields.lookup key) x :=
  field_eq_some_iff .texts

theorem readSuite_table_iff {fields : Table} {c : Config} :
    readSuite (.table fields) = some c.suite ↔ Section.suite.Overlays fields c := by
  simp only [readSuite, asSection, asTable, bind, Option.bind_some, Option.bind_eq_some_iff,
    field_asText_eq_some_iff, field_asPath_eq_some_iff]
  constructor
  · obtain ⟨⟨_, _, _⟩, _, _, _, _, _⟩ := c
    rintro ⟨_, hdirectory, _, hjava, _, hbranch, h⟩
    cases h
    intro f hf
    cases f with
    | suiteDirectory => exact hdirectory
    | java => exact hjava
    | primaryBranch => exact hbranch
    | _ => cases hf
  · intro h
    exact ⟨_, h .suiteDirectory rfl, _, h .java rfl, _, h .primaryBranch rfl, rfl⟩

theorem readClasspath_table_iff {fields : Table} {c : Config} :
    readClasspath (.table fields) = some c.classpath ↔ Section.classpath.Overlays fields c := by
  simp only [readClasspath, asSection, asTable, bind, Option.bind_some, Option.bind_eq_some_iff,
    field_asTexts_eq_some_iff]
  constructor
  · obtain ⟨_, ⟨_, _, _⟩, _, _, _, _⟩ := c
    rintro ⟨_, hlauncher, _, htests, _, htools, h⟩
    cases h
    intro f hf
    cases f with
    | launcherJars => exact hlauncher
    | testJars => exact htests
    | toolJars => exact htools
    | _ => cases hf
  · intro h
    exact ⟨_, h .launcherJars rfl, _, h .testJars rfl, _, h .toolJars rfl, rfl⟩

theorem readLauncher_table_iff {fields : Table} {c : Config} :
    readLauncher (.table fields) = some c.launcher ↔ Section.launcher.Overlays fields c := by
  simp only [readLauncher, asSection, asTable, bind, Option.bind_some, Option.bind_eq_some_iff,
    field_asText_eq_some_iff]
  constructor
  · obtain ⟨_, _, _, ⟨_, _⟩, _, _⟩ := c
    rintro ⟨_, hmain, _, hlegacy, h⟩
    cases h
    intro f hf
    cases f with
    | mainClass => exact hmain
    | legacyMainClass => exact hlegacy
    | _ => cases hf
  · intro h
    exact ⟨_, h .mainClass rfl, _, h .legacyMainClass rfl, rfl⟩

theorem readUnitTest_table_iff {fields : Table} {c : Config} :
    readUnitTest (.table fields) = some c.unitTest ↔ Section.unitTest.Overlays fields c := by
  simp only [readUnitTest, asSection, asTable, bind, Option.bind_some, Option.bind_eq_some_iff,
    field_asText_eq_some_iff]
  constructor
  · obtain ⟨_, _, _, _, ⟨_, _, _⟩, _⟩ := c
    rintro ⟨_, hmain, _, hpackage, _, hscriptEngine, h⟩
    cases h
    intro f hf
    cases f with
    | testMainClass => exact hmain
    | testPackage => exact hpackage
    | scriptEnginePackage => exact hscriptEngine
    | _ => cases hf
  · intro h
    exact ⟨_, h .testMainClass rfl, _, h .testPackage rfl, _, h .scriptEnginePackage rfl, rfl⟩

theorem readDeploy_table_iff {fields : Table} {c : Config} :
    readDeploy (.table fields) = some c.deploy ↔ Section.deploy.Overlays fields c := by
  simp only [readDeploy, asSection, asTable, bind, Option.bind_some, Option.bind_eq_some_iff,
    field_asTexts_eq_some_iff]
  constructor
  · obtain ⟨_, _, _, _, _, ⟨_⟩⟩ := c
    rintro ⟨_, hcommand, h⟩
    cases h
    intro f hf
    cases f with
    | deployCommand => exact hcommand
    | _ => cases hf
  · intro h
    exact ⟨_, h .deployCommand rfl, rfl⟩

/-- Reading the table of a section gives the part in which its fields lie over the defaults. -/
theorem Section.read_table_iff (s : Section) {fields : Table} {c : Config} :
    s.read (.table fields) = some (s.part c) ↔ s.Overlays fields c := by
  cases s with
  | suite => exact readSuite_table_iff
  | classpath => exact readClasspath_table_iff
  | launcher => exact readLauncher_table_iff
  | unitTest => exact readUnitTest_table_iff
  | deploy => exact readDeploy_table_iff

/-! ### The archives -/

/-- What a list of named paths owes the entries it is read from: it is in order, every entry is a
path, and its members are those of the entries. -/
structure IsArchives (entries : Table) (paths : List (String × Path)) : Prop where
  sorted : paths.Pairwise (·.1 < ·.1)
  typed : ∀ entry ∈ entries, ∃ path, Kind.path.Means entry.2 path
  mem_iff : ∀ name path, (name, path) ∈ paths ↔ ∃ v, (name, v) ∈ entries ∧ Kind.path.Means v path

/-- Two lists in order with the same members are the same list. -/
theorem eq_of_sorted_of_mem_iff {paths paths' : List (String × Path)}
    (h : paths.Pairwise (·.1 < ·.1)) (h' : paths'.Pairwise (·.1 < ·.1))
    (hmem : ∀ entry, entry ∈ paths ↔ entry ∈ paths') : paths = paths' := by
  have hnodup {l : List (String × Path)} (hl : l.Pairwise (·.1 < ·.1)) : l.Nodup := by
    refine hl.imp ?_
    rintro entry _ hlt rfl
    exact String.lt_irrefl _ hlt
  have hperm := (List.perm_ext_iff_of_nodup (hnodup h) (hnodup h')).mpr hmem
  exact hperm.eq_of_pairwise (fun _ _ _ _ hlt hgt => absurd hgt (String.lt_asymm hlt)) h h'

theorem IsArchives.unique {entries : Table} {paths paths' : List (String × Path)}
    (h : IsArchives entries paths) (h' : IsArchives entries paths') : paths = paths' :=
  eq_of_sorted_of_mem_iff h.sorted h'.sorted fun (name, path) =>
    (h.mem_iff name path).trans (h'.mem_iff name path).symm

theorem IsArchives.perm {entries entries' : Table} {paths : List (String × Path)}
    (h : IsArchives entries paths) (hperm : entries.Perm entries') : IsArchives entries' paths where
  sorted := h.sorted
  typed entry hentry := h.typed entry (hperm.mem_iff.mpr hentry)
  mem_iff name path := by
    simp only [h.mem_iff, hperm.mem_iff]

section

variable {entry : String × Path} {paths : List (String × Path)}

theorem mem_insertByName (hfresh : entry.1 ∉ paths.map Prod.fst) {x : String × Path} :
    x ∈ insertByName entry paths ↔ x = entry ∨ x ∈ paths := by
  induction paths with
  | nil => simp [insertByName]
  | cons other rest ih =>
    rw [List.map_cons, List.mem_cons, not_or] at hfresh
    rw [insertByName]
    split
    · exact List.mem_cons
    · rw [if_neg hfresh.1, List.mem_cons, List.mem_cons, ih hfresh.2]
      exact or_left_comm

theorem pairwise_insertByName (h : paths.Pairwise (·.1 < ·.1))
    (hfresh : entry.1 ∉ paths.map Prod.fst) : (insertByName entry paths).Pairwise (·.1 < ·.1) := by
  induction paths with
  | nil => exact List.pairwise_singleton _ _
  | cons other rest ih =>
    rw [List.pairwise_cons] at h
    rw [List.map_cons, List.mem_cons, not_or] at hfresh
    rw [insertByName]
    split
    · rename_i hlt
      refine List.pairwise_cons.mpr ⟨fun x hx => ?_, List.pairwise_cons.mpr h⟩
      rcases List.mem_cons.mp hx with rfl | hx
      · exact hlt
      · exact String.lt_trans hlt (h.1 x hx)
    · rename_i hge
      rw [if_neg hfresh.1]
      refine List.pairwise_cons.mpr ⟨fun x hx => ?_, ih h.2 hfresh.2⟩
      rcases (mem_insertByName hfresh.2).mp hx with rfl | hx
      · by_contra hle
        exact hfresh.1 (String.le_antisymm (String.not_lt.mp hle) (String.not_lt.mp hge))
      · exact h.1 x hx

end

/-- Inserting named paths one after the other gives them all, in order. -/
theorem foldl_insertByName {named : List (String × Path)} (hnames : (named.map Prod.fst).Nodup) :
    (named.foldl (fun sorted entry => insertByName entry sorted) []).Pairwise (·.1 < ·.1) ∧
      ∀ x, x ∈ named.foldl (fun sorted entry => insertByName entry sorted) [] ↔ x ∈ named := by
  -- The fold works from the front, so the entry inserted last is the last of the list.
  induction named using List.reverseRecOn with
  | nil => exact ⟨.nil, fun _ => .rfl⟩
  | append_singleton named entry ih =>
    rw [List.map_append, List.nodup_append] at hnames
    obtain ⟨hsorted, hmem⟩ := ih hnames.1
    have hfresh : entry.1 ∉
        (named.foldl (fun sorted entry => insertByName entry sorted) []).map Prod.fst := by
      intro hname
      obtain ⟨other, hother, heq⟩ := List.mem_map.mp hname
      exact hnames.2.2 other.1 (List.mem_map_of_mem ((hmem other).mp hother)) entry.1
        List.mem_cons_self heq
    rw [List.foldl_concat]
    refine ⟨pairwise_insertByName hsorted hfresh, fun x => ?_⟩
    rw [mem_insertByName hfresh, hmem, List.mem_append, List.mem_singleton, or_comm]

/-- A name with its value, read as a name with a path. -/
def readNamed (entry : String × Value) : Option (String × Path) :=
  (asPath entry.2).map (entry.1, ·)

theorem readNamed_eq_some_iff {entry : String × Value} {named : String × Path} :
    readNamed entry = some named ↔ named.1 = entry.1 ∧ Kind.path.Means entry.2 named.2 := by
  obtain ⟨name, path⟩ := named
  refine Option.map_eq_some_iff.trans ⟨?_, ?_⟩
  · rintro ⟨path, hpath, heq⟩
    cases heq
    exact ⟨rfl, Kind.read_eq_some_iff.mp hpath⟩
  · rintro ⟨rfl, hmeans⟩
    exact ⟨path, Kind.read_eq_some_iff.mpr hmeans, rfl⟩

theorem exists_map_readNamed {entries : Table}
    (h : ∀ entry ∈ entries, ∃ path, Kind.path.Means entry.2 path) :
    ∃ named : List (String × Path), entries.map readNamed = named.map some := by
  induction entries with
  | nil => exact ⟨[], rfl⟩
  | cons entry rest ih =>
    obtain ⟨⟨path, hpath⟩, hrest⟩ := List.forall_mem_cons.mp h
    obtain ⟨named, hnamed⟩ := ih hrest
    have hfirst : readNamed entry = some (entry.1, path) :=
      readNamed_eq_some_iff.mpr ⟨rfl, hpath⟩
    refine ⟨(entry.1, path) :: named, ?_⟩
    rw [List.map_cons, hfirst, hnamed]
    rfl

section

variable {entries : Table} {named : List (String × Path)}

theorem names_of_map_readNamed (h : entries.map readNamed = named.map some) :
    named.map Prod.fst = entries.map Prod.fst := by
  induction named generalizing entries with
  | nil => rw [List.map_eq_nil_iff.mp h]; rfl
  | cons found named ih =>
    obtain ⟨entry, rest, rfl, hfirst, hrest⟩ := List.map_eq_cons_iff.mp h
    rw [List.map_cons, List.map_cons, ih hrest, (readNamed_eq_some_iff.mp hfirst).1]

theorem mem_iff_of_map_readNamed (h : entries.map readNamed = named.map some)
    (found : String × Path) :
    found ∈ named ↔ ∃ entry ∈ entries, readNamed entry = some found := by
  rw [← List.mem_map, h]
  simp

theorem isArchives_of_map_readNamed (hnames : (entries.map Prod.fst).Nodup)
    (h : entries.map readNamed = named.map some) :
    IsArchives entries (named.foldl (fun sorted entry => insertByName entry sorted) []) := by
  have hkept : (named.map Prod.fst).Nodup := names_of_map_readNamed h ▸ hnames
  obtain ⟨hsorted, hmem⟩ := foldl_insertByName hkept
  refine ⟨hsorted, fun entry hentry => ?_, fun name path => ?_⟩
  · have hread := List.mem_map_of_mem (f := readNamed) hentry
    rw [h] at hread
    obtain ⟨found, -, hfound⟩ := List.mem_map.mp hread
    exact ⟨found.2, (readNamed_eq_some_iff.mp hfound.symm).2⟩
  · rw [hmem, mem_iff_of_map_readNamed h]
    constructor
    · rintro ⟨⟨_, v⟩, hentry, hfound⟩
      obtain ⟨rfl, hmeans⟩ := readNamed_eq_some_iff.mp hfound
      exact ⟨v, hentry, hmeans⟩
    · rintro ⟨v, hentry, hmeans⟩
      exact ⟨(name, v), hentry, readNamed_eq_some_iff.mpr ⟨rfl, hmeans⟩⟩

theorem exists_isArchives (hnames : (entries.map Prod.fst).Nodup)
    (h : ∀ entry ∈ entries, ∃ path, Kind.path.Means entry.2 path) :
    ∃ paths, IsArchives entries paths := by
  obtain ⟨named, hnamed⟩ := exists_map_readNamed h
  exact ⟨_, isArchives_of_map_readNamed hnames hnamed⟩

end

/-- The section of the archives is read as the paths of its entries, in order, and not at all when
an entry is no path. -/
theorem asNamedPaths_table_iff {entries : Table} (hnames : (entries.map Prod.fst).Nodup)
    {paths : List (String × Path)} :
    asNamedPaths (.table entries) = some paths ↔ IsArchives entries paths := by
  have hread : asNamedPaths (.table entries) = some paths ↔
      ∃ named : List (String × Path),
        entries.map readNamed = named.map some ∧
          named.foldl (fun sorted entry => insertByName entry sorted) [] = paths := by
    change ((entries.mapM readNamed).bind fun named =>
      some (named.foldl (fun sorted entry => insertByName entry sorted) [])) = some paths ↔ _
    simp only [Option.bind_eq_some_iff, Option.some.injEq, mapM_eq_some_iff]
  rw [hread]
  constructor
  · rintro ⟨named, hnamed, rfl⟩
    exact isArchives_of_map_readNamed hnames hnamed
  · intro h
    obtain ⟨named, hnamed⟩ := exists_map_readNamed h.typed
    exact ⟨named, hnamed, (isArchives_of_map_readNamed hnames hnamed).unique h⟩

/-- The order in which archives are given does not matter. -/
theorem asNamedPaths_perm {entries entries' : Table} (hnames : (entries.map Prod.fst).Nodup)
    (h : entries.Perm entries') :
    asNamedPaths (.table entries) = asNamedPaths (.table entries') := by
  have hnames' : (entries'.map Prod.fst).Nodup := (h.map Prod.fst).nodup_iff.mp hnames
  refine Option.ext fun paths => ?_
  rw [asNamedPaths_table_iff hnames, asNamedPaths_table_iff hnames']
  exact ⟨fun hpaths => hpaths.perm h, fun hpaths => hpaths.perm h.symm⟩

end Launchpad.Config
