import Launchpad.Proofs.Arguments.Classpath
import Launchpad.Proofs.Arguments.Kinds
import Launchpad.Proofs.Arguments.LastTaken
import Launchpad.Proofs.Launch.Layout

/-!
What a launch makes of the text of the user's classpath. The text stands in one argument and decides
nothing, with one exception: default sizes are put behind a list in which the classpath stands, and
they look for their flags in all of it. A classpath that starts like a flag for the heap or the
stack thus keeps default sizes out, unless other entries stand before it. Main statement: for each
kind of launch, the exact condition under which another text changes no other argument.
-/

namespace Launchpad

open Arguments Results

/-! ### Sizes behind a classpath -/

namespace Arguments

/-- Two texts of a classpath look the same to default sizes, wherever no flag settles the matter
already. -/
structure SizedAlike (flags : List String) (own value : String) : Prop where
  heap : setsHeap flags = true ∨ startsWith own heapStart = startsWith value heapStart
  stack : setsStack flags = true ∨ startsWith own stackStart = startsWith value stackStart

theorem setsHeap_classpath (entry : String) (flags : List String) :
    setsHeap ("-cp" :: entry :: flags) = (startsWith entry heapStart || setsHeap flags) := by
  have hflag : startsWith "-cp" heapStart = false := by decide
  simp [setsHeap, hflag]

theorem setsStack_classpath (entry : String) (flags : List String) :
    setsStack ("-cp" :: entry :: flags) = (startsWith entry stackStart || setsStack flags) := by
  have hflag : startsWith "-cp" stackStart = false := by decide
  simp [setsStack, hflag]

/-- A sizing that adds a flag for each size. -/
def Sizing.IsComplete (sizing : Sizing) : Prop :=
  sizing.heapFlags.length = 2 ∧ sizing.stackFlags.length = 1

/-- What a complete sizing adds tells by its length what it was added to. -/
theorem added_eq_iff {sizing : Sizing} (hcomplete : sizing.IsComplete) (left right : List String) :
    sizing.added left = sizing.added right ↔
      setsHeap left = setsHeap right ∧ setsStack left = setsStack right := by
  obtain ⟨hheap, hstack⟩ := hcomplete
  have hlength : ∀ flags, (sizing.added flags).length =
      (if setsHeap flags then 0 else 2) + (if setsStack flags then 0 else 1) := by
    intro flags
    rw [Sizing.added, List.length_append]
    cases setsHeap flags <;> cases setsStack flags <;> simp [hheap, hstack]
  have hdecided : ∀ heap stack heap' stack' : Bool,
      (if heap then 0 else 2) + (if stack then 0 else 1) =
        (if heap' then 0 else 2) + (if stack' then 0 else 1) →
      heap = heap' ∧ stack = stack' := by decide
  constructor
  · intro hadded
    apply hdecided
    rw [← hlength, ← hlength, hadded]
  · rintro ⟨hheap, hstack⟩
    rw [Sizing.added, Sizing.added, hheap, hstack]

theorem added_classpath_eq_iff {sizing : Sizing} (hcomplete : sizing.IsComplete)
    (flags : List String) (own value : String) :
    sizing.added ("-cp" :: own :: flags) = sizing.added ("-cp" :: value :: flags) ↔
      SizedAlike flags own value := by
  have halike : ∀ left right settled : Bool,
      (left || settled) = (right || settled) ↔ settled = true ∨ left = right := by decide
  rw [added_eq_iff hcomplete, setsHeap_classpath, setsHeap_classpath, setsStack_classpath,
    setsStack_classpath, halike, halike]
  exact ⟨fun ⟨heap, stack⟩ => ⟨heap, stack⟩, fun ⟨heap, stack⟩ => ⟨heap, stack⟩⟩

/-! ### A classpath with the user's own entry -/

theorem classpathArgs_concat (entries : List String) (entry : String) :
    classpathArgs (entries ++ [entry]) = ["-cp", joinClasspath (entries ++ [entry])] := by
  rw [classpathArgs, if_neg (by simp)]

theorem classpathArgs_singleton (entry : String) : classpathArgs [entry] = ["-cp", entry] := by
  rw [classpathArgs, if_neg (by simp), joinClasspath_singleton]

/-- How a classpath of several entries starts is a matter of the first one. -/
theorem startsWith_joinClasspath_concat (first : String) (more : List String) (text : String)
    {pattern : String} (hpattern : isWhole pattern) :
    startsWith (joinClasspath (first :: more ++ [text])) pattern = startsWith first pattern := by
  have hshape : ∃ back, (joinClasspath (first :: more ++ [text])).toList =
      first.toList ++ classpathSeparator :: back := by
    cases more <;> simp [toList_joinClasspath, Text.joinWith]
  obtain ⟨back, hback⟩ := hshape
  rw [Bool.eq_iff_iff, startsWith, startsWith, List.isPrefixOf_iff_prefix,
    List.isPrefixOf_iff_prefix, hback]
  exact Text.prefix_append_separator_iff hpattern first.toList back

theorem sizedAlike_joinClasspath_iff (flags defaults : List String) (own value : String) :
    SizedAlike flags (joinClasspath (defaults ++ [own])) (joinClasspath (defaults ++ [value])) ↔
      (defaults = [] → SizedAlike flags own value) := by
  cases defaults with
  | nil => simp [joinClasspath_singleton]
  | cons first more =>
    have hsame : ∀ pattern, isWhole pattern →
        startsWith (joinClasspath (first :: more ++ [own])) pattern =
          startsWith (joinClasspath (first :: more ++ [value])) pattern := by
      intro pattern hpattern
      rw [startsWith_joinClasspath_concat first more own hpattern,
        startsWith_joinClasspath_concat first more value hpattern]
    simp only [reduceCtorEq, false_imp_iff, iff_true]
    exact ⟨.inr (hsame heapStart (by decide)), .inr (hsame stackStart (by decide))⟩

end Arguments

/-! ### One argument among the others -/

/-- Another text for a token of the user changes one argument of a launch, the one that holds that
token joined to what is configured, and no other. -/
def IsOpaque (launch : List String → Except DanglingFlag (List String)) (slot : Nat)
    (joined : String → String) (tokens : List String) (place : Nat) (value : String) : Prop :=
  ∃ own args, tokens[place]? = some own ∧ launch tokens = .ok args ∧
    args[slot]? = some (joined own) ∧
    launch (tokens.set place value) = .ok (args.set slot (joined value))

theorem isOpaque_iff {launch : List String → Except DanglingFlag (List String)} {slot : Nat}
    {joined : String → String} {tokens : List String} {place : Nat} {own value : String}
    {front flags sizes sizes' back : List String} (hown : tokens[place]? = some own)
    (hslot : front.length = slot)
    (hold : launch tokens = .ok (front ++ joined own :: (flags ++ sizes ++ back)))
    (hnew : launch (tokens.set place value) =
      .ok (front ++ joined value :: (flags ++ sizes' ++ back))) :
    IsOpaque launch slot joined tokens place value ↔ sizes = sizes' := by
  subst hslot
  have hset : (front ++ joined own :: (flags ++ sizes ++ back)).set front.length (joined value) =
      front ++ joined value :: (flags ++ sizes ++ back) := by simp
  constructor
  · rintro ⟨_, args, -, hargs, -, hchanged⟩
    rw [hold, Except.ok.injEq] at hargs
    rw [← hargs, hset, hnew, Except.ok.injEq] at hchanged
    simpa using hchanged.symm
  · rintro rfl
    exact ⟨own, _, hown, hold, by simp, by rw [hset, hnew]⟩

/-! ### The launches -/

theorem Arguments.Sizing.isComplete_interactive (arch : Arch) :
    (Sizing.interactive arch).IsComplete := ⟨rfl, rfl⟩

theorem SuiteProfile.isComplete_sizing (profile : SuiteProfile) (arch : Arch) :
    (profile.sizing arch).IsComplete := ⟨rfl, rfl⟩

section

variable {tokens flags remainder : List String} {text : String}

theorem Shell.argumentList_of_classpath (arch : Arch) (mainClass : String)
    (defaults : List String) (withSizes : Bool)
    (h : sort false tokens = .ok ⟨flags, some text, remainder⟩) :
    argumentList arch tokens mainClass defaults withSizes =
      .ok (["-cp"] ++ joinClasspath (defaults ++ [text]) ::
        (flags ++ addedSizes arch withSizes
            ("-cp" :: joinClasspath (defaults ++ [text]) :: flags) ++
          mainClass :: remainder)) := by
  rw [argumentList_of_partition arch mainClass withSizes (partition_of_sort defaults h)]
  simp [classpathArgs_concat]

theorem Shell.args_legacy (host : Host) (tokens : List String) (withSizes : Bool) :
    (Shell.legacy.command host tokens withSizes).map (·.args) =
      argumentList host.arch tokens host.config.launcher.legacyMainClass [] withSizes := by
  simp only [Shell.command]
  cases argumentList host.arch tokens host.config.launcher.legacyMainClass [] withSizes <;> rfl

theorem SuiteProfile.args_of_classpath (profile : SuiteProfile) (host : Host)
    (h : sort false tokens = .ok ⟨flags, some text, remainder⟩) :
    (profile.command host tokens).map (·.args) =
      .ok (["-ea", "-esa", "-cp", joinClasspath host.config.testsClasspath] ++
        profile.defaultVmArgs ++ ["-cp"] ++ text ::
          (flags ++ (profile.sizing host.arch).added ("-cp" :: text :: flags) ++
            profile.mainClass :: remainder)) := by
  rw [profile.command_of_partition host (partition_of_sort [] h)]
  simp [appendSizing_eq_append, classpathArgs_singleton, Except.map, Host.java]

theorem UnitTests.args_of_classpath (host : Host) (trailing : List String)
    (h : sort false tokens = .ok ⟨flags, some text, remainder⟩) :
    (command host tokens trailing).map (·.args) =
      .ok (["-ea", "-esa", "-cp", joinClasspath host.config.testsClasspath, "-cp"] ++ text ::
        (flags ++ [] ++
          host.config.unitTest.mainClass :: (runnerFlags ++ remainder ++ trailing))) := by
  rw [command_of_partition host trailing (partition_of_sort [] h)]
  simp [classpathArgs_singleton, Except.map, Host.java]

end

/-- Another text for the last classpath of the user changes one argument of a launch and no other,
in the launch of the unit tests always, and in the others exactly when default sizes see no
difference between the two texts. They see none where they are not asked for, and none in the shell
when default entries stand before the user's own. -/
theorem classpath_is_opaque_iff (host : Host) {tokens : List String} {place : Nat} {own : String}
    {user : Partition} (value : String) (huser : partition tokens [] false = .ok user)
    (hplace : IsLastTaken tokens place) (hown : tokens[place]? = some own) :
    (∀ mainClass defaults withSizes,
      IsOpaque (Shell.argumentList host.arch · mainClass defaults withSizes) 1
          (fun text => joinClasspath (defaults ++ [text])) tokens place value ↔
        (withSizes = true → defaults = [] → SizedAlike user.flags own value)) ∧
    (∀ withSizes,
      IsOpaque (fun tokens => (Shell.legacy.command host tokens withSizes).map (·.args)) 1 id
          tokens place value ↔
        (withSizes = true → SizedAlike user.flags own value)) ∧
    (∀ profile : SuiteProfile,
      IsOpaque (fun tokens => (profile.command host tokens).map (·.args))
          (5 + profile.defaultVmArgs.length) id tokens place value ↔
        SizedAlike user.flags own value) ∧
    ∀ trailing,
      IsOpaque (fun tokens => (UnitTests.command host tokens trailing).map (·.args)) 5 id
        tokens place value := by
  have hsorted := partition_nil_eq_ok huser
  have hold : sort false tokens = .ok ⟨user.flags, some own, user.remainder⟩ := by
    rw [hsorted, ← hown, ← (sort_set hsorted hplace value).1]
  have hnew : sort false (tokens.set place value) =
      .ok ⟨user.flags, some value, user.remainder⟩ := (sort_set hsorted hplace value).2
  have hshell : ∀ mainClass defaults withSizes,
      IsOpaque (Shell.argumentList host.arch · mainClass defaults withSizes) 1
          (fun text => joinClasspath (defaults ++ [text])) tokens place value ↔
        (withSizes = true → defaults = [] → SizedAlike user.flags own value) := by
    intro mainClass defaults withSizes
    refine Iff.trans (isOpaque_iff hown rfl
      (Shell.argumentList_of_classpath host.arch mainClass defaults withSizes hold)
      (Shell.argumentList_of_classpath host.arch mainClass defaults withSizes hnew)) ?_
    cases withSizes with
    | false => simp [Shell.addedSizes]
    | true =>
      simp only [Shell.addedSizes, if_true, true_imp_iff]
      rw [added_classpath_eq_iff (Sizing.isComplete_interactive host.arch),
        sizedAlike_joinClasspath_iff]
  refine ⟨hshell, ?_, ?_, ?_⟩
  · intro withSizes
    have hlegacy := hshell host.config.launcher.legacyMainClass [] withSizes
    simp only [List.nil_append, joinClasspath_singleton, true_imp_iff] at hlegacy
    simp only [Shell.args_legacy]
    exact hlegacy
  · intro profile
    refine Iff.trans (isOpaque_iff hown (by simp; omega) (profile.args_of_classpath host hold)
      (profile.args_of_classpath host hnew)) ?_
    exact added_classpath_eq_iff (profile.isComplete_sizing host.arch) user.flags own value
  · intro trailing
    exact Iff.mpr (isOpaque_iff hown rfl (UnitTests.args_of_classpath host trailing hold)
      (UnitTests.args_of_classpath host trailing hnew)) rfl

/-- A flag of the user settles the sizes of the heap, so that a classpath may look like one. -/
theorem classpath_is_opaque_beside_heap_flag :
    let host : Host :=
      { config := {}, executor := ⟨fun _ _ w => ⟨.ok (0, ""), w.files, []⟩⟩, arch := .standard }
    let tokens := ["-cp", "a.jar", "-classpath", "b.jar", "-Xmx1g", "x.js"]
    IsOpaque (Shell.argumentList .standard · "Main" ["c.jar"] true) 1
        (fun text => joinClasspath (["c.jar"] ++ [text])) tokens 3 "-Xmlib.jar" ∧
      IsOpaque (fun tokens => (Shell.legacy.command host tokens true).map (·.args)) 1 id tokens 3
        "-Xmlib.jar" ∧
      IsOpaque (fun tokens =>
        ((TestSuite.testNashorn.profile .standard).command host tokens).map (·.args)) 7 id tokens 3
        "-Xmlib.jar" ∧
      IsOpaque (fun tokens => (UnitTests.command host tokens ["pkg"]).map (·.args)) 5 id tokens 3
        "-Xmlib.jar" := by
  intro host tokens
  have huser : partition tokens [] false =
      .ok ⟨["-cp", "b.jar", "-Xmx1g"], ["b.jar"], ["x.js"]⟩ := by decide
  have hlast : IsLastTaken tokens 3 := by decide
  have hown : tokens[3]? = some "b.jar" := rfl
  obtain ⟨hshell, hlegacy, hsuite, hunit⟩ :=
    classpath_is_opaque_iff host "-Xmlib.jar" huser hlast hown
  have halike : SizedAlike ["-Xmx1g"] "b.jar" "-Xmlib.jar" := ⟨by decide, by decide⟩
  exact ⟨(hshell "Main" ["c.jar"] true).mpr fun _ _ => halike, (hlegacy true).mpr fun _ => halike,
    (hsuite (TestSuite.testNashorn.profile .standard)).mpr halike, hunit ["pkg"]⟩

/-- A jar whose name starts like a flag for the heap takes the default sizes of the heap away. -/
theorem classpath_taken_for_heap_flag :
    let host : Host :=
      { config := {}, executor := ⟨fun _ _ w => ⟨.ok (0, ""), w.files, []⟩⟩, arch := .standard }
    let tokens := ["-cp", "lib.jar"]
    partition tokens [] false = .ok ⟨["-cp", "lib.jar"], ["lib.jar"], []⟩ ∧
      IsLastTaken tokens 1 ∧
      ¬IsOpaque (fun tokens => (Shell.legacy.command host tokens true).map (·.args)) 1 id tokens 1
        "-Xmlib.jar" := by
  intro host tokens
  refine ⟨by decide, by decide, ?_⟩
  rintro ⟨own, args, -, hargs, -, hchanged⟩
  have hfirst : (Shell.legacy.command host tokens true).map (·.args) =
      .ok ["-cp", "lib.jar", "-Xms2g", "-Xmx2g", "-Xss16m", "jdk.nashorn.tools.Shell"] := by decide
  have hsame := hfirst.symm.trans hargs
  rw [Except.ok.injEq] at hsame
  subst hsame
  revert hchanged
  decide

end Launchpad
