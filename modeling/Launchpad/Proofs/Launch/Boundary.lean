import Launchpad.Proofs.Arguments.Kinds
import Launchpad.Proofs.Launch.Layout

/-!
What the virtual machine makes of an argument list that was laid out for it. It sorts the list as
the program sorted the tokens of its user, and stops at the main class: what stands before it are
flags and classpaths, of which the last one counts, and what stands behind it is for the program.
The main statement says that nothing crosses that boundary, whatever the tokens are.
-/

namespace Launchpad

open Results

namespace Arguments

/-- Read by the virtual machine, an argument list sets one classpath or none, and some flags, in
front of what the program gets. -/
def ReadsAs (list : List String) (classpath? : Option String) (flags program : List String) :
    Prop :=
  partition list [] false =
    .ok ⟨classpath?.toList.flatMap (["-cp", ·]) ++ flags, classpath?.toList, program⟩

theorem readsAs_of_sort {list : List String} {s : Sorted} (h : sort false list = .ok s) :
    ReadsAs list s.classpath? s.vmFlags s.remainder := by
  rw [ReadsAs, partition_of_sort [] h, List.nil_append, classpathArgs_eq_flatMap, joined?_toList]

/-- The main class ends what the virtual machine looks at, when what stands before it can be
sorted and leaves nothing to the program, and what stands behind it means nothing to the virtual
machine. -/
theorem readsAs_of_front {front : List String} {flags : List String} {classpath? : Option String}
    (hfront : sort false front = .ok ⟨flags, classpath?, []⟩) {mainClass : String}
    {program : List String} (hmain : isPlain mainClass = true)
    (hprogram : ∀ token ∈ program, isPlain token = true) :
    ReadsAs (front ++ mainClass :: program) classpath? flags (mainClass :: program) := by
  have hback : sort false (mainClass :: program) = .ok ⟨[], none, mainClass :: program⟩ :=
    sort_of_plain (List.forall_mem_cons.mpr ⟨hmain, hprogram⟩)
  have hall : sort false (front ++ mainClass :: program) =
      .ok ⟨flags, classpath?, mainClass :: program⟩ := by
    rw [sort_append hfront, hback]
    simp [Except.map, Sorted.append]
  exact readsAs_of_sort hall

/-- Lists that leave nothing to the program are sorted one after the other; the last classpath
counts. -/
theorem sort_append_front {front back flags flags' : List String}
    {classpath? classpath?' : Option String}
    (hfront : sort false front = .ok ⟨flags, classpath?, []⟩)
    (hback : sort false back = .ok ⟨flags', classpath?', []⟩) :
    sort false (front ++ back) = .ok ⟨flags ++ flags', classpath?'.or classpath?, []⟩ := by
  rw [sort_append hfront, hback]
  rfl

/-- The pair in front of a testing launch, and flags, are sorted as they stand. -/
theorem sort_testStart (classpath : String) {flags : List String}
    (h : ∀ flag ∈ flags, isVmFlag flag = true) :
    sort false (["-ea", "-esa", "-cp", classpath] ++ flags) =
      .ok ⟨["-ea", "-esa"] ++ flags, some classpath, []⟩ := by
  have hassertions : sort false ["-ea", "-esa"] = .ok ⟨["-ea", "-esa"], none, []⟩ :=
    sort_of_vmFlags (by decide)
  have hstart := sort_append_front hassertions (sort_pair classpath)
  exact sort_append_front hstart (sort_of_vmFlags h)

/-- The flags of a launch that tests: the classpath of the user, if there is one, goes behind that
of the tests, and counts instead of it. -/
theorem sort_testing (classpath : String) {leading added : List String}
    {user : Partition} {tokens : List String} (huser : partition tokens [] false = .ok user)
    (hleading : ∀ flag ∈ leading, isVmFlag flag = true)
    (hadded : ∀ flag ∈ added, isVmFlag flag = true) :
    sort false (["-ea", "-esa", "-cp", classpath] ++ leading ++ (user.vmArgs ++ added)) =
      .ok ⟨["-ea", "-esa"] ++ leading ++ (user.flags ++ added),
        some (user.joined?.getD classpath), []⟩ := by
  have hsorted := partition_nil_eq_ok huser
  have hflags : ∀ flag ∈ user.flags ++ added, isVmFlag flag = true :=
    List.forall_mem_append.mpr ⟨fun flag hflag => isVmFlag_of_mem_sort hsorted hflag, hadded⟩
  have hargs : user.vmArgs = classpathArgs user.classpath ++ user.flags := by
    obtain ⟨s, -, rfl⟩ := map_eq_ok.mp huser
    simp [Partition.flags]
  have hback := sort_append_front (sort_classpathArgs user.classpath) (sort_of_vmFlags hflags)
  have hall := sort_append_front (sort_testStart classpath hleading) hback
  rw [hargs, List.append_assoc (classpathArgs user.classpath), hall]
  have hjoined : joined? user.classpath = user.joined? := rfl
  rw [hjoined]
  cases user.joined? <;> rfl

end Arguments

open Arguments

/-! ### The launches -/

theorem Shell.partition_of_argumentList {arch : Arch} {tokens defaults list : List String}
    {mainClass : String} {withSizes : Bool}
    (h : argumentList arch tokens mainClass defaults withSizes = .ok list) :
    ∃ user, partition tokens [] false = .ok user ∧
      list = classpathArgs (defaults ++ user.classpath) ++ user.flags ++
        addedSizes arch withSizes (classpathArgs (defaults ++ user.classpath) ++ user.flags) ++
          mainClass :: user.remainder := by
  cases hparts : partition tokens defaults false with
  | error dangling =>
    rw [argumentList, hparts] at h
    cases h
  | ok parts =>
    rw [argumentList_of_partition arch mainClass withSizes hparts, Except.ok.injEq] at h
    obtain ⟨s, hs, rfl⟩ := map_eq_ok.mp hparts
    exact ⟨_, partition_of_sort [] hs, by simp [← h, Partition.flags]⟩

theorem SuiteProfile.partition_of_command {profile : SuiteProfile} {host : Host}
    {tokens : List String} {launch : Command} (h : profile.command host tokens = .ok launch) :
    ∃ user, partition tokens [] false = .ok user ∧
      launch.args = ["-ea", "-esa", "-cp", joinClasspath host.config.testsClasspath] ++
        profile.defaultVmArgs ++
          (user.vmArgs ++ (profile.sizing host.arch).added user.vmArgs) ++
            profile.mainClass :: user.remainder := by
  cases huser : partition tokens [] false with
  | error dangling =>
    rw [command, huser] at h
    cases h
  | ok user =>
    rw [profile.command_of_partition host huser, Except.ok.injEq] at h
    exact ⟨user, rfl, by rw [← h, appendSizing_eq_append]; rfl⟩

theorem UnitTests.partition_of_command {host : Host} {tokens trailing : List String}
    {launch : Command} (h : command host tokens trailing = .ok launch) :
    ∃ user, partition tokens [] false = .ok user ∧
      launch.args = ["-ea", "-esa", "-cp", joinClasspath host.config.testsClasspath] ++
        user.vmArgs ++
          host.config.unitTest.mainClass :: (runnerFlags ++ user.remainder ++ trailing) := by
  cases huser : partition tokens [] false with
  | error dangling =>
    rw [command, huser] at h
    cases h
  | ok user =>
    rw [UnitTests.command_of_partition host trailing huser, Except.ok.injEq] at h
    exact ⟨user, rfl, by rw [← h]; rfl⟩

theorem Shell.readsAs_of_argumentList {arch : Arch} {tokens defaults list : List String}
    {mainClass : String} {withSizes : Bool} (hmain : isPlain mainClass = true)
    (h : argumentList arch tokens mainClass defaults withSizes = .ok list) :
    ∃ user, partition tokens [] false = .ok user ∧
      ReadsAs list (joined? (defaults ++ user.classpath))
        (user.flags ++ addedSizes arch withSizes
          (classpathArgs (defaults ++ user.classpath) ++ user.flags))
        (mainClass :: user.remainder) := by
  obtain ⟨user, huser, rfl⟩ := partition_of_argumentList h
  have hsorted := partition_nil_eq_ok huser
  let sizes := addedSizes arch withSizes
    (classpathArgs (defaults ++ user.classpath) ++ user.flags)
  have hflags : sort false (user.flags ++ sizes) = .ok ⟨user.flags ++ sizes, none, []⟩ :=
    sort_of_vmFlags (List.forall_mem_append.mpr
      ⟨fun flag hflag => isVmFlag_of_mem_sort hsorted hflag,
        fun flag hflag => isVmFlag_of_mem_addedSizes hflag⟩)
  have hfront := sort_append_front (sort_classpathArgs (defaults ++ user.classpath)) hflags
  refine ⟨user, huser, ?_⟩
  rw [List.append_assoc (classpathArgs _)]
  exact readsAs_of_front hfront hmain fun token htoken => isPlain_of_mem_remainder hsorted htoken

theorem SuiteProfile.readsAs_of_command {profile : SuiteProfile} {host : Host}
    {tokens : List String} {launch : Command} (hmain : isPlain profile.mainClass = true)
    (hdefaults : ∀ flag ∈ profile.defaultVmArgs, isVmFlag flag = true)
    (h : profile.command host tokens = .ok launch) :
    ∃ user, partition tokens [] false = .ok user ∧
      ReadsAs launch.args (some (user.joined?.getD (joinClasspath host.config.testsClasspath)))
        (["-ea", "-esa"] ++ profile.defaultVmArgs ++
          (user.flags ++ (profile.sizing host.arch).added user.vmArgs))
        (profile.mainClass :: user.remainder) := by
  obtain ⟨user, huser, hargs⟩ := partition_of_command h
  have hsizes : ∀ flag ∈ (profile.sizing host.arch).added user.vmArgs, isVmFlag flag = true :=
    fun flag hflag => isVmFlag_of_mem_added hflag
  have hfront := sort_testing (joinClasspath host.config.testsClasspath) huser hdefaults hsizes
  refine ⟨user, huser, ?_⟩
  rw [hargs]
  exact readsAs_of_front hfront hmain fun token htoken =>
    isPlain_of_mem_remainder (partition_nil_eq_ok huser) htoken

theorem UnitTests.readsAs_of_command {host : Host} {tokens trailing : List String}
    {launch : Command} (hmain : isPlain host.config.unitTest.mainClass = true)
    (htrailing : ∀ token ∈ trailing, isPlain token = true)
    (h : command host tokens trailing = .ok launch) :
    ∃ user, partition tokens [] false = .ok user ∧
      ReadsAs launch.args (some (user.joined?.getD (joinClasspath host.config.testsClasspath)))
        (["-ea", "-esa"] ++ user.flags)
        (host.config.unitTest.mainClass :: (runnerFlags ++ user.remainder ++ trailing)) := by
  obtain ⟨user, huser, hargs⟩ := partition_of_command h
  have hnone : ∀ flag ∈ ([] : List String), isVmFlag flag = true := List.forall_mem_nil _
  have hfront := sort_testing (joinClasspath host.config.testsClasspath) huser hnone hnone
  have hrunner : ∀ flag ∈ runnerFlags, isPlain flag = true := by decide
  have hprogram : ∀ token ∈ runnerFlags ++ user.remainder ++ trailing, isPlain token = true := by
    simp only [List.forall_mem_append]
    exact ⟨⟨hrunner, fun token htoken =>
      isPlain_of_mem_remainder (partition_nil_eq_ok huser) htoken⟩, htrailing⟩
  refine ⟨user, huser, ?_⟩
  simp only [List.append_nil] at hfront
  rw [hargs]
  exact readsAs_of_front hfront hmain hprogram

/-- Whatever tokens the user of a launch gives, the main class ends what the virtual machine looks
at. In front of it stand the flags of the launch, those of the user and those for default sizes, in
this order, and of all classpaths the user's own counts, with the default entries of a shell before
it; behind it stands for the program what is left of the tokens, and nothing else that the launch
does not put there. -/
theorem main_class_bounds_arguments (host : Host) (tokens : List String) :
    (∀ mainClass defaults withSizes list, isPlain mainClass = true →
      Shell.argumentList host.arch tokens mainClass defaults withSizes = .ok list →
      ∃ user, partition tokens [] false = .ok user ∧
        ReadsAs list (joined? (defaults ++ user.classpath))
          (user.flags ++ Shell.addedSizes host.arch withSizes
            (classpathArgs (defaults ++ user.classpath) ++ user.flags))
          (mainClass :: user.remainder)) ∧
    (∀ profile launch, isPlain profile.mainClass = true →
      (∀ flag ∈ profile.defaultVmArgs, isVmFlag flag = true) →
      SuiteProfile.command profile host tokens = .ok launch →
      ∃ user, partition tokens [] false = .ok user ∧
        ReadsAs launch.args
          (some (user.joined?.getD (joinClasspath host.config.testsClasspath)))
          (["-ea", "-esa"] ++ profile.defaultVmArgs ++
            (user.flags ++ (profile.sizing host.arch).added user.vmArgs))
          (profile.mainClass :: user.remainder)) ∧
    (∀ trailing launch, isPlain host.config.unitTest.mainClass = true →
      (∀ token ∈ trailing, isPlain token = true) →
      UnitTests.command host tokens trailing = .ok launch →
      ∃ user, partition tokens [] false = .ok user ∧
        ReadsAs launch.args
          (some (user.joined?.getD (joinClasspath host.config.testsClasspath)))
          (["-ea", "-esa"] ++ user.flags)
          (host.config.unitTest.mainClass ::
            (UnitTests.runnerFlags ++ user.remainder ++ trailing))) := by
  refine ⟨?_, ?_, ?_⟩
  · intro mainClass defaults withSizes list hmain hlist
    exact Shell.readsAs_of_argumentList hmain hlist
  · intro profile launch hmain hdefaults hlaunch
    exact SuiteProfile.readsAs_of_command hmain hdefaults hlaunch
  · intro trailing launch hmain htrailing hlaunch
    exact UnitTests.readsAs_of_command hmain htrailing hlaunch

/-- The first classpath flag takes what looks like a flag, and the second one wins; a double dash
ends nothing. -/
theorem main_class_bounds_mixed_tokens :
    let host : Host :=
      { config := { classpath := { tests := ["t.jar"] } }
        executor := ⟨fun _ _ w => ⟨.ok (0, ""), w.files, []⟩⟩
        arch := .standard }
    let tokens := ["-cp", "-Dx", "a.js", "--", "-ea", "-classpath", "u.jar", "b", "-Xmx1g"]
    (∃ list, Shell.argumentList .standard tokens "Main" ["l.jar"] true = .ok list ∧
      ReadsAs list (some "l.jar:u.jar") ["-ea", "-Xmx1g", "-Xss16m"] ["Main", "a.js", "--", "b"]) ∧
    (∃ launch, (TestSuite.testV8.profile .standard).command host tokens = .ok launch ∧
      ReadsAs launch.args (some "u.jar") ["-ea", "-esa", "-ea", "-Xmx1g", "-Xss1m"]
        ["com.oracle.truffle.js.test.external.testv8.TestV8", "a.js", "--", "b"]) ∧
    (∃ launch, UnitTests.command host tokens ["pkg"] = .ok launch ∧
      ReadsAs launch.args (some "u.jar") ["-ea", "-esa", "-ea", "-Xmx1g"]
        ["com.oracle.mxtool.junit.MxJUnitWrapper", "--enable-timing", "--very-verbose", "a.js",
          "--", "b", "pkg"]) := by
  intro host tokens
  obtain ⟨hshell, hsuite, hunit⟩ := main_class_bounds_arguments host tokens
  have huser : partition tokens [] false =
      .ok ⟨["-cp", "u.jar", "-ea", "-Xmx1g"], ["u.jar"], ["a.js", "--", "b"]⟩ := by decide
  obtain ⟨s, hs, -⟩ := map_eq_ok.mp huser
  refine ⟨?_, ?_, ?_⟩
  · have hlist := Shell.argumentList_of_partition .standard "Main" true
      (partition_of_sort ["l.jar"] hs)
    obtain ⟨user, h, hreads⟩ := hshell "Main" ["l.jar"] true _ (by decide) hlist
    rw [huser] at h
    cases h
    exact ⟨_, hlist, hreads⟩
  · have hlaunch := (TestSuite.testV8.profile .standard).command_of_partition host huser
    obtain ⟨user, h, hreads⟩ := hsuite _ _ (by decide) (by decide) hlaunch
    rw [huser] at h
    cases h
    exact ⟨_, hlaunch, hreads⟩
  · have hlaunch := UnitTests.command_of_partition host ["pkg"] huser
    obtain ⟨user, h, hreads⟩ := hunit ["pkg"] _ (by decide) (by decide) hlaunch
    rw [huser] at h
    cases h
    exact ⟨_, hlaunch, hreads⟩

end Launchpad
