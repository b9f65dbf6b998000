import Launchpad.Proofs.Copy.Unresolved
import Launchpad.Proofs.Gate.Runs
import Launchpad.Proofs.Launch.Once
import Launchpad.Proofs.Suite.Fetch
import Launchpad.Proofs.Suite.Renewal
import Launchpad.Proofs.Tar.Unpacking

/-!
How often a run of the gate renews the copy of a suite. Up to six of its tasks fetch the copy of one
suite, with tasks of other suites and their children in between. Once a fetch has renewed the copy,
it is as late as the start of the run at least, and no archive is later; so no fetch behind it
renews the copy again, whatever the other tasks do meanwhile.
-/

namespace Launchpad

open Launchpad.Action Arguments

variable {host : Host} {start : Timestamp} {w w' : World}

namespace Gate

def TestCommand.suite? : TestCommand → Option TestSuite
  | .test262 => some .test262
  | .testNashorn => some .testNashorn
  | .testV8 => some .testV8
  | .unitTest => none

def Task.suite? (task : Task) : Option TestSuite :=
  match task.action with
  | .test command _ => command.suite?
  | _ => none

/-- A task either runs a suite, or launches what it has sorted its arguments for. -/
theorem Task.run_cases (task : Task) (host : Host) :
    (∃ suite args, task.suite? = some suite ∧
        task.run host = TestSuite.run suite host args .success) ∨
      task.suite? = none ∧ ∃ answer : Except DanglingFlag Command,
        task.run host = Action.ofExcept .argument answer >>= fun launch =>
          host.await launch .success := by
  obtain ⟨name, tags, action⟩ := task
  cases action with
  | script args => exact .inr ⟨rfl, _, rfl⟩
  | scriptEngine => exact .inr ⟨rfl, _, rfl⟩
  | test command args =>
    cases command with
    | unitTest => exact .inr ⟨rfl, _, rfl⟩
    | test262 | testNashorn | testV8 => exact .inl ⟨_, args, rfl, rfl⟩

/-- The fetch that a task makes in a world, with its answer. -/
def Task.answers (task : Task) (host : Host) (w : World) :
    List (TestSuite × Except Failure Copy.Outcome) :=
  task.suite?.toList.map fun suite => (suite, ((suite.fetch host).perform w).1)

/-- The fetches that tasks make one after the other, up to the first that fails, with their answers.
-/
def fetches (host : Host) : List Task → World → List (TestSuite × Except Failure Copy.Outcome)
  | [], _ => []
  | task :: rest, w =>
    task.answers host (w.record (begins task)) ++
      match (runTask host task).perform w with
      | (.ok _, w') => fetches host rest w'
      | (.error _, _) => []

/-- What the log tells of fetches. -/
def told (host : Host) (answers : List (TestSuite × Except Failure Copy.Outcome)) :
    List (String × String) :=
  answers.filterMap fun answer =>
    answer.2.toOption.map fun outcome => ((answer.1.profile host.arch).name, outcome.word)

variable {task : Task} {tasks : List Task} {suite : TestSuite}

/-! ### What the log tells -/

theorem told_append (host : Host) (front back : List (TestSuite × Except Failure Copy.Outcome)) :
    told host (front ++ back) = told host front ++ told host back :=
  List.filterMap_append

/-- A task tells of its fetch, if that succeeds, and of nothing else. -/
theorem fetched_task (task : Task) (host : Host) (w : World) :
    ((task.run host).perform w).2.fetched = w.fetched ++ told host (task.answers host w) := by
  have hlaunch : ∀ (answer : Except DanglingFlag Command) (w : World),
      ((Action.ofExcept Failure.argument answer >>= fun launch =>
        host.await launch .success).perform w).2.fetched = w.fetched := by
    intro answer w
    rw [perform_bind, perform_ofExcept]
    cases answer with
    | ok launch => exact host.fetched_await launch .success w
    | error flag => rfl
  rcases task.run_cases host with ⟨suite, args, hsuite, hrun⟩ | ⟨hsuite, answer, hrun⟩
  · have hfetch := suite.fetched_fetch host w
    rw [hrun, TestSuite.perform_run, Task.answers, hsuite, Option.toList_some, List.map_singleton]
    rcases hperform : (suite.fetch host).perform w with ⟨outcome, fetched⟩
    rw [hperform] at hfetch
    cases outcome with
    | error failure => simpa [told, Except.toOption] using hfetch
    | ok outcome =>
      have hentry : ((suite.profile host.arch).fetched outcome).fetched? =
          some ((suite.profile host.arch).name, outcome.word) := rfl
      simp only at hfetch ⊢
      rw [hlaunch, ← hfetch]
      simp [World.fetched, World.record, hentry, told, Except.toOption]
  · rw [hrun, hlaunch, Task.answers, hsuite]
    simp [told]

theorem fetched_runTask (task : Task) (host : Host) (w : World) :
    ((runTask host task).perform w).2.fetched =
      w.fetched ++ told host (task.answers host (w.record (begins task))) := by
  have htask := fetched_task task host (w.record (begins task))
  rw [fetched_record_of_none (show Event.fetched? (begins task) = none from rfl)] at htask
  rw [perform_runTask, ← htask]
  rcases (task.run host).perform (w.record (begins task)) with ⟨outcome, worked⟩
  cases outcome with
  | ok status => exact fetched_record_of_none rfl worked
  | error failure => exact fetched_record_of_none rfl worked

/-- The log of a run tells of its fetches, in their order. -/
theorem fetched_run (host : Host) (filter : TagFilter) (tasks : List Task) (w : World) :
    ((run host filter false tasks).perform w).2.fetched =
      w.fetched ++ told host (fetches host (tasks.filter filter.selects) w) := by
  induction tasks generalizing w with
  | nil => exact (List.append_nil _).symm
  | cons task rest ih =>
    cases hselects : filter.selects task with
    | false =>
      have hrest := ih w
      rw [run_skipped host false rest hselects, perform_bind,
        List.filter_cons_of_neg (by simp [hselects])]
      rcases hrun : (run host filter false rest).perform w with ⟨outcome, w'⟩
      rw [hrun] at hrest
      cases outcome with
      | ok report => exact hrest
      | error failure => exact hrest
    | true =>
      have htask := fetched_runTask task host w
      rw [run_selected host false rest hselects, List.filter_cons_of_pos hselects, fetches,
        told_append, ← List.append_assoc, ← htask]
      simp only [Bool.false_eq_true, if_false, perform_bind]
      rcases (runTask host task).perform w with ⟨outcome, between⟩
      cases outcome with
      | error failure => simp [told]
      | ok time =>
        have hrest := ih between
        simp only
        rcases hrun : (run host filter false rest).perform between with ⟨outcome, w'⟩
        rw [hrun] at hrest
        cases outcome with
        | ok report => exact hrest
        | error failure => exact hrest

/-! ### What a task leaves for the fetches behind it -/

/-- A fetch that succeeds keeps the order and every fresh copy, and makes the copy that it renews
fresh. -/
theorem fetch_keeps (horderly : IsOrderly host.config start w.files) (hstart : start ≤ w.files.now)
    (hunpacks : host.unpacker.InTime (suite.copy host.config).directory) {outcome : Copy.Outcome}
    (h : (suite.fetch host).perform w = (.ok outcome, w')) :
    (IsOrderly host.config start w'.files ∧ start ≤ w'.files.now) ∧
      (∀ {other}, IsFresh host.config start other w.files →
        IsFresh host.config start other w'.files) ∧
      (outcome = .renewed → IsFresh host.config start suite w'.files) := by
  rw [TestSuite.fetch_eq] at h
  rcases Copy.perform_ensureCurrent_ok h with ⟨rfl, hfiles, -⟩ | ⟨rfl, hrenews⟩
  · rw [hfiles]
    exact ⟨⟨horderly, hstart⟩, id, nofun⟩
  · obtain ⟨horderly', hstart', hfresh, hothers⟩ := horderly.renewed hstart hunpacks hrenews
    exact ⟨⟨horderly', hstart'⟩, hothers, fun _ => hfresh⟩

section

variable (hunpacks : ∀ suite : TestSuite,
    host.unpacker.InTime (suite.copy host.config).directory)
  (hleaves : host.executor.LeavesSuites host.config start)
include hunpacks hleaves

/-- A task that succeeds keeps the order and every fresh copy, and makes the copy that it renews
fresh. -/
theorem isOrderly_runTask (horderly : IsOrderly host.config start w.files)
    (hstart : start ≤ w.files.now) {time : Duration}
    (h : (runTask host task).perform w = (.ok time, w')) :
    (IsOrderly host.config start w'.files ∧ start ≤ w'.files.now) ∧
      (∀ {other}, IsFresh host.config start other w.files →
        IsFresh host.config start other w'.files) ∧
      ∀ answer ∈ task.answers host (w.record (begins task)), answer.2 = .ok .renewed →
        IsFresh host.config start answer.1 w'.files := by
  obtain ⟨status, worked, hwork, -, rfl⟩ := runTask_ok.mp h
  change (IsOrderly host.config start worked.files ∧ start ≤ worked.files.now) ∧
    (∀ {other}, IsFresh host.config start other w.files →
      IsFresh host.config start other worked.files) ∧ _
  -- What is launched in the end leaves what it finds.
  have hlaunch : ∀ {answer : Except DanglingFlag Command} {before : World},
      (Action.ofExcept Failure.argument answer >>= fun launch =>
        host.await launch .success).perform before = (.ok status, worked) →
      IsOrderly host.config start before.files →
      LeavesSuites host.config start before.files worked.files := by
    intro answer before hperform hbefore
    cases answer with
    | error flag => cases hperform
    | ok launch =>
      have hfiles := host.files_await launch .success before
      have hawait : (host.await launch .success).perform before = (.ok status, worked) := hperform
      rw [hawait] at hfiles
      simp only at hfiles
      rw [hfiles]
      exact hleaves launch (before.record launch.starts) hbefore
  rcases task.run_cases host with ⟨suite, args, hsuite, hrun⟩ | ⟨hsuite, answer, hrun⟩
  · rw [hrun, TestSuite.perform_run] at hwork
    rcases hfetch : (suite.fetch host).perform (w.record (begins task)) with ⟨outcome, fetched⟩
    rw [hfetch] at hwork
    cases outcome with
    | error failure => cases hwork
    | ok outcome =>
      obtain ⟨⟨horderly', hstart'⟩, hothers, hfresh⟩ :=
        fetch_keeps (w := w.record (begins task)) horderly hstart (hunpacks suite) hfetch
      have hleft := hlaunch hwork horderly'
      refine ⟨⟨hleft.orderly, Timestamp.le_trans hstart' hleft.clock⟩,
        fun hother => (hothers hother).of_leavesSuites hleft, ?_⟩
      rw [Task.answers, hsuite]
      simp only [Option.toList_some, List.map_cons, List.map_nil, List.mem_singleton,
        forall_eq, hfetch, Except.ok.injEq]
      exact fun hrenewed => (hfresh hrenewed).of_leavesSuites hleft
  · rw [hrun] at hwork
    have hleft := hlaunch hwork horderly
    refine ⟨⟨hleft.orderly, Timestamp.le_trans hstart hleft.clock⟩,
      fun hother => hother.of_leavesSuites hleft, ?_⟩
    rw [Task.answers, hsuite]
    simp

/-- In a row of tasks, a copy that is fresh is kept by every fetch, and so is one behind a fetch
that renews it. -/
theorem fetches_keep (horderly : IsOrderly host.config start w.files)
    (hstart : start ≤ w.files.now) :
    (∀ {suite}, IsFresh host.config start suite w.files →
      ∀ answer ∈ fetches host tasks w, answer.1 = suite → answer.2 = .ok .kept) ∧
    (fetches host tasks w).Pairwise fun earlier later =>
      later.1 = earlier.1 → earlier.2 = .ok .renewed → later.2 = .ok .kept := by
  induction tasks generalizing w with
  | nil => exact ⟨by simp [fetches], .nil⟩
  | cons task rest ih =>
    have hown : ∀ {suite}, IsFresh host.config start suite w.files →
        ∀ answer ∈ task.answers host (w.record (begins task)), answer.1 = suite →
          answer.2 = .ok .kept := by
      intro suite hfresh answer hanswer hsuite
      obtain ⟨own, -, rfl⟩ := List.mem_map.mp hanswer
      obtain rfl : own = suite := hsuite
      have hkept : ((own.copy host.config).ensureCurrent host).perform (w.record (begins task)) =
          (.ok .kept, w.record (begins task)) :=
        Copy.perform_ensureCurrent_of_looksCurrent (hfresh.looksCurrent horderly)
      rw [← TestSuite.fetch_eq] at hkept
      rw [hkept]
    have hsingle : (task.answers host (w.record (begins task))).Pairwise fun earlier later =>
        later.1 = earlier.1 → earlier.2 = .ok .renewed → later.2 = .ok .kept := by
      rw [Task.answers]
      cases task.suite? with
      | none => exact .nil
      | some suite => exact List.pairwise_singleton _ _
    rw [fetches]
    rcases hperform : (runTask host task).perform w with ⟨outcome, between⟩
    cases outcome with
    | error failure =>
      simp only [List.append_nil]
      exact ⟨hown, hsingle⟩
    | ok time =>
      obtain ⟨⟨horderly', hstart'⟩, hkeeps, hrenewed⟩ :=
        isOrderly_runTask hunpacks hleaves horderly hstart hperform
      obtain ⟨hlater, hpairs⟩ := ih horderly' hstart'
      refine ⟨fun hfresh answer hanswer => ?_, List.pairwise_append.mpr ⟨hsingle, hpairs, ?_⟩⟩
      · rcases List.mem_append.mp hanswer with hanswer | hanswer
        · exact hown hfresh answer hanswer
        · exact hlater (hkeeps hfresh) answer hanswer
      · intro earlier hearlier later hmem hsame houtcome
        exact hlater (hrenewed earlier hearlier houtcome) later hmem hsame

end

/-- In a run of the gate the copy of each suite is renewed at most once, and every fetch behind the
one that renews it keeps it. The log tells of all these fetches. -/
theorem renews_each_copy_once (host : Host) (filter : TagFilter) (tasks : List Task) (w : World)
    (horderly : IsOrderly host.config w.files.now w.files)
    (hunpacks : ∀ suite : TestSuite,
      host.unpacker.InTime (suite.copy host.config).directory)
    (hleaves : host.executor.LeavesSuites host.config w.files.now) :
    ((run host filter false tasks).perform w).2.fetched =
        w.fetched ++ told host (fetches host (tasks.filter filter.selects) w) ∧
      (fetches host (tasks.filter filter.selects) w).Pairwise fun earlier later =>
        later.1 = earlier.1 → earlier.2 = .ok .renewed → later.2 = .ok .kept :=
  ⟨fetched_run host filter tasks w,
    (fetches_keep hunpacks hleaves horderly (Timestamp.le_refl _)).2⟩

/-! ### Runs of which everything is known -/

/-- A host with one archive that stands for the archives of all suites, and children that change
nothing and end with zero. -/
def quietHost (root : String) : Host :=
  { config :=
      { suite := { directory := .ofText root }
        artifacts := ["TEST262", "TESTNASHORN", "TESTNASHORN_EXTERNAL", "TESTV8"].map
          fun name => (name, .ofText "/x.tar") }
    executor := ⟨fun _ _ w => ⟨.ok (0, ""), w.files, []⟩⟩
    arch := .standard }

theorem quietHost_archive {root : String} {archive : Path}
    (h : (quietHost root).config.HasArchive suite archive) : archive = .ofText "/x.tar" := by
  obtain ⟨name, -, relative, hlookup, rfl⟩ := h
  obtain ⟨front, back, htable, -⟩ := List.lookup_eq_some_iff.mp hlookup
  have hmem : (name, relative) ∈ (quietHost root).config.artifacts := by
    rw [htable]
    simp
  obtain ⟨_, -, heq⟩ := List.mem_map.mp hmem
  cases heq
  exact if_pos rfl

theorem quietHost_leaves (root : String) (start : Timestamp) :
    (quietHost root).executor.LeavesSuites (quietHost root).config start :=
  fun _ _ horderly => .refl horderly

/-- In a run whose children change nothing, a task leaves the files as its fetch does. -/
theorem fetches_cons_of_quiet {root : String} {files files' : FileSystem} {args : List String}
    {outcome : Copy.Outcome} {launch : Command} (task : Task) (hsuite : task.suite? = some suite)
    (hrun : task.run (quietHost root) = suite.run (quietHost root) args .success)
    (hcommand : (suite.profile .standard).command (quietHost root) args = .ok launch)
    (hfetch : ∀ journal, ((suite.fetch (quietHost root)).perform ⟨files, journal⟩).map id
      World.files = (.ok outcome, files')) (rest : List Task) (journal : List Event) :
    ∃ journal', fetches (quietHost root) (task :: rest) ⟨files, journal⟩ =
      (suite, .ok outcome) :: fetches (quietHost root) rest ⟨files', journal'⟩ := by
  have hfetched := hfetch (journal ++ [begins task])
  rcases hperform : (suite.fetch (quietHost root)).perform ⟨files, journal ++ [begins task]⟩ with
    ⟨answer, fetched⟩
  rw [hperform] at hfetched
  obtain ⟨rfl, rfl⟩ := Prod.mk.inj hfetched
  have hbegun : (suite.fetch (quietHost root)).perform
      (World.record ⟨files, journal⟩ (begins task)) = (.ok outcome, fetched) := hperform
  have htask : ∃ worked, (task.run (quietHost root)).perform
      (World.record ⟨files, journal⟩ (begins task)) = (.ok 0, worked) ∧
        worked.files = fetched.files := by
    rw [hrun, TestSuite.perform_run, hbegun]
    simp only
    rw [show (quietHost root).arch = .standard from rfl, hcommand]
    exact ⟨_, rfl, rfl⟩
  obtain ⟨worked, hworked, hfiles⟩ := htask
  refine ⟨(worked.record (succeeds task (elapsed ⟨files, journal⟩ worked))).journal, ?_⟩
  rw [fetches, Task.answers, hsuite, perform_runTask, hworked]
  simp only [Option.toList_some, List.map_singleton, hbegun, List.singleton_append]
  rw [← hfiles]
  rfl

/-- The filter that two tasks of one suite pass. -/
def twoTasks : TagFilter := ⟨["Test262-default", "Test262-noic"]⟩

/-- The two tasks, and the commands that they launch. -/
theorem filter_twoTasks :
    ∃ first second, Task.all.filter twoTasks.selects =
        [.ofVariant .test262 first, .ofVariant .test262 second] ∧
      ∀ root, (∃ launch, (TestSuite.test262.profile .standard).command (quietHost root)
          first.args = .ok launch) ∧
        ∃ launch, (TestSuite.test262.profile .standard).command (quietHost root)
          second.args = .ok launch := by
  refine ⟨⟨"default", ["gate"]⟩, ⟨"noic", ["-Dtruffle.js.PropertyCacheLimit=0",
    "-Dtruffle.js.FunctionCacheLimit=0", "gate"]⟩, by cbv, fun root => ⟨⟨_, rfl⟩, ⟨_, rfl⟩⟩⟩

/-- What two fetches of one suite answer and leave, one after the other. -/
structure FetchesTwice (root : String) (before between after : FileSystem)
    (first second : Copy.Outcome) : Prop where
  first : ∀ journal, ((TestSuite.test262.fetch (quietHost root)).perform
    ⟨before, journal⟩).map id World.files = (.ok first, between)
  second : ∀ journal, ((TestSuite.test262.fetch (quietHost root)).perform
    ⟨between, journal⟩).map id World.files = (.ok second, after)

/-- The fetches of the two tasks answer so. -/
theorem FetchesTwice.fetches_eq {root : String} {before between after : FileSystem}
    {first second : Copy.Outcome} (h : FetchesTwice root before between after first second) :
    fetches (quietHost root) (Task.all.filter twoTasks.selects) ⟨before, []⟩ =
      [(.test262, .ok first), (.test262, .ok second)] := by
  obtain ⟨default, noic, htasks, hcommands⟩ := filter_twoTasks
  obtain ⟨⟨launch, hcommand⟩, launch', hcommand'⟩ := hcommands root
  obtain ⟨journal, hfetches⟩ := fetches_cons_of_quiet (.ofVariant .test262 default) rfl rfl
    hcommand h.first [.ofVariant .test262 noic] []
  obtain ⟨journal', hfetches'⟩ := fetches_cons_of_quiet (.ofVariant .test262 noic) rfl rfl
    hcommand' h.second [] journal
  rw [htasks, hfetches, hfetches', fetches]

def shelfRows (changed : Int) (archive : ByteArray) : List (Location × Entry) :=
  [([], ⟨0, .directory, directoryMode, ⟨1⟩⟩),
    (.ofTexts ["lib"], ⟨1, .directory, directoryMode, ⟨changed⟩⟩),
    (.ofTexts ["x.tar"], ⟨3, .file archive, fileMode, ⟨2⟩⟩)]

def oldShelf (archive : ByteArray) : FileSystem :=
  { entries :=
      (.ofTexts ["lib", "test262"], ⟨2, .directory, directoryMode, ⟨1⟩⟩) :: shelfRows 1 archive
    nextSerial := 4
    now := ⟨10⟩
    here := [] }

/-- The shelf with a copy that was just made. -/
def madeShelf (archive : ByteArray) : FileSystem :=
  { entries :=
      (.ofTexts ["lib", "test262"], ⟨4, .directory, directoryMode, ⟨1010⟩⟩) ::
        shelfRows 1010 archive
    nextSerial := 5
    now := ⟨2010⟩
    here := [] }

/-- The shelf once the archive was unpacked into the copy. -/
def renewedShelf (content archive : ByteArray) : FileSystem :=
  { entries :=
      [(.ofTexts ["lib", "test262", "f"], ⟨5, .file content, 0o644, ⟨1000000000⟩⟩),
        (.ofTexts ["lib", "test262"], ⟨4, .directory, directoryMode, ⟨2010⟩⟩)] ++
      shelfRows 1010 archive
    nextSerial := 6
    now := ⟨3010⟩
    here := [] }

theorem renews_oldShelf {content : ByteArray} (hsize : content.size = 3) :
    (TestSuite.test262.copy (quietHost ".").config).Renews (quietHost ".")
      (oldShelf (Tar.archiveOf content)) (renewedShelf content (Tar.archiveOf content)) := by
  let copy := TestSuite.test262.copy (quietHost ".").config
  have hclears : ∀ archive : ByteArray, ∃ cleared, copy.Clears (oldShelf archive) cleared ∧
      cleared.makeDirectories copy.directory = (.ok (), madeShelf archive) := by
    intro archive
    have hthere : (oldShelf archive).pathExists copy.directory = true := by
      cbv
    have hremoved : (oldShelf archive).removeTree copy.directory =
        (.ok (), (oldShelf archive).remove (.ofTexts ["lib", "test262"])) := by
      cbv
    exact ⟨_, .removed hthere hremoved, by cbv⟩
  have hholds : ∀ archive : ByteArray, Artifact.Holds (quietHost ".").config (madeShelf archive)
      "TEST262" archive := fun archive => ⟨.ofText "/x.tar", by cbv, by cbv⟩
  have hleads : ∀ archive : ByteArray,
      (madeShelf archive).IsDirectoryAt copy.directory (.ofTexts ["lib", "test262"]) :=
    fun archive => ⟨⟨4, .directory, directoryMode, ⟨1010⟩⟩, by cbv, rfl⟩
  have hmember : ∀ archive : ByteArray, Tar.unpackMember (.ofTexts ["lib", "test262"])
      (Tar.threeBytes.member content) (madeShelf archive) =
        (.ok (), renewedShelf content archive) := by
    intro archive
    rw [Tar.unpackMember_threeBytes]
    cbv
  obtain ⟨cleared, hcleared, hmade⟩ := hclears (Tar.archiveOf content)
  exact ⟨cleared, _, _, hcleared, hmade,
    .cons (hholds _) (Tar.tar_archiveOf hsize (hleads _) (hmember _)) (.nil _)⟩

/-- The first fetch renews the copy, and the next one keeps it. -/
theorem fetchesTwice_oldShelf {content : ByteArray} (hsize : content.size = 3) :
    FetchesTwice "." (oldShelf (Tar.archiveOf content))
      (renewedShelf content (Tar.archiveOf content))
      (renewedShelf content (Tar.archiveOf content)) .renewed .kept where
  first journal := by
    have hstale : ∀ archive : ByteArray, (((TestSuite.test262.copy (quietHost ".").config).isStale
        (quietHost ".").config).perform ⟨oldShelf archive, journal⟩).map id World.files =
          (.ok true, oldShelf archive) := fun archive => by
      cbv
    obtain ⟨hasked, hfiles⟩ := Prod.ext_iff.mp (hstale (Tar.archiveOf content))
    have hsame : (((TestSuite.test262.copy (quietHost ".").config).isStale
        (quietHost ".").config).perform ⟨oldShelf (Tar.archiveOf content), journal⟩).2.files =
          oldShelf (Tar.archiveOf content) := hfiles
    obtain ⟨w', hrenewed, hafter⟩ := Copy.exists_renewed (Prod.ext hasked rfl)
      (hsame.symm ▸ renews_oldShelf hsize)
    rw [TestSuite.fetch_eq, hrenewed, ← hafter]
    rfl
  second journal := by
    generalize Tar.archiveOf content = archive
    cbv

theorem isOrderly_oldShelf {archive : ByteArray} (hwell : (oldShelf archive).WellFormed) :
    IsOrderly (quietHost ".").config (oldShelf archive).now (oldShelf archive) := by
  have harchive : (oldShelf archive).status (.ofText "/x.tar") =
      .ok (.ofTexts ["x.tar"], ⟨3, .file archive, fileMode, ⟨2⟩⟩) := by
    cbv
  refine ⟨hwell, fun h => ?_, .inl ⟨.ofTexts ["lib"], ?_⟩⟩
  · rw [quietHost_archive h]
    have hdated : (⟨2⟩ : Timestamp) ≤ ⟨10⟩ := by decide
    exact ⟨_, _, harchive, .inr hdated⟩
  -- Without the old copy on the shelf both paths lead where they do with it.
  let bare : FileSystem := (oldShelf archive).eraseBelow (.ofTexts ["lib", "test262"])
  have hwithin : bare.Within (oldShelf archive) := FileSystem.eraseBelow_within _ _
  have hfree : ∀ {l}, OnShelf (.ofTexts ["lib"]) l → bare.entry? l = none := by
    rintro l ⟨suite, hbelow⟩
    refine FileSystem.entry?_eq_none_of_rows
      (P := fun m => Location.ofTexts ["lib"] ++ [suite.place] <+: m) ?_ hbelow
    have hrows : bare.entries = shelfRows 1 archive := by
      cbv
    rw [hrows]
    simp only [shelfRows, List.forall_mem_cons]
    cases suite <;> decide
  have hshelf : ∃ e, bare.status (quietHost ".").config.shelf = .ok (.ofTexts ["lib"], e) :=
    ⟨⟨1, .directory, directoryMode, ⟨1⟩⟩, by cbv⟩
  have hbeside : ∃ e, bare.status (.ofText "/x.tar") = .ok (.ofTexts ["x.tar"], e) :=
    ⟨⟨3, .file archive, fileMode, ⟨2⟩⟩, by cbv⟩
  obtain ⟨e, hshelf⟩ := hshelf
  obtain ⟨e', hbeside⟩ := hbeside
  refine ⟨.of_within hwithin hfree hshelf, fun h => ?_⟩
  rw [quietHost_archive h]
  exact ⟨_, .of_within hwithin hfree hbeside⟩

/-- The old copy is renewed from its archive by the first of two tasks and kept by the second. -/
theorem renews_old_copy_once :
    let host := quietHost "."
    let w : World := ⟨oldShelf (Tar.archiveOf "new".toUTF8), []⟩
    IsOrderly host.config w.files.now w.files ∧
      (∀ suite : TestSuite, host.unpacker.InTime (suite.copy host.config).directory) ∧
      host.executor.LeavesSuites host.config w.files.now ∧
      fetches host (Task.all.filter twoTasks.selects) w =
        [(.test262, .ok .renewed), (.test262, .ok .kept)] ∧
      ((run host twoTasks false Task.all).perform w).2.fetched =
        w.fetched ++ told host (fetches host (Task.all.filter twoTasks.selects) w) ∧
      (fetches host (Task.all.filter twoTasks.selects) w).Pairwise fun earlier later =>
        later.1 = earlier.1 → earlier.2 = .ok .renewed → later.2 = .ok .kept := by
  intro host w
  have hwell : (oldShelf (Tar.archiveOf "new".toUTF8)).WellFormed :=
    FileSystem.wellFormed_of_rows (by decide) (by decide)
  have horderly := isOrderly_oldShelf hwell
  have hunpacks : ∀ suite : TestSuite,
      host.unpacker.InTime (suite.copy host.config).directory := fun suite =>
    Unpacker.inTime_tar (suite.copy host.config).directory
  have hsize : "new".toUTF8.size = 3 := by decide
  exact ⟨horderly, hunpacks, quietHost_leaves "." _,
    (fetchesTwice_oldShelf hsize).fetches_eq,
    renews_each_copy_once host twoTasks Task.all w horderly hunpacks (quietHost_leaves "." _)⟩

/-- A shelf with an old copy on it, to which the path `a/b/../lib` would lead if there were a
directory `a/b`. -/
def oldShelfBeside : FileSystem :=
  { entries :=
      [([], ⟨0, .directory, directoryMode, ⟨1⟩⟩),
        (.ofTexts ["a"], ⟨1, .directory, directoryMode, ⟨1⟩⟩),
        (.ofTexts ["a", "lib"], ⟨2, .directory, directoryMode, ⟨1⟩⟩),
        (.ofTexts ["a", "lib", "test262"], ⟨3, .directory, directoryMode, ⟨1⟩⟩),
        (.ofTexts ["x.tar"], ⟨4, .file ByteArray.empty, fileMode, ⟨2⟩⟩)]
    nextSerial := 5
    now := ⟨10⟩
    here := [] }

def oldShelfReached : FileSystem :=
  { entries :=
      [(.ofTexts ["a", "b"], ⟨5, .directory, directoryMode, ⟨10⟩⟩),
        ([], ⟨0, .directory, directoryMode, ⟨1⟩⟩),
        (.ofTexts ["a"], ⟨1, .directory, directoryMode, ⟨10⟩⟩),
        (.ofTexts ["a", "lib"], ⟨2, .directory, directoryMode, ⟨1⟩⟩),
        (.ofTexts ["a", "lib", "test262"], ⟨3, .directory, directoryMode, ⟨1⟩⟩),
        (.ofTexts ["x.tar"], ⟨4, .file ByteArray.empty, fileMode, ⟨2⟩⟩)]
    nextSerial := 6
    now := ⟨1010⟩
    here := [] }

/-- Where the suite root climbs out of a missing directory, the first fetch makes this directory and
then finds an old copy in the place of the one that it was to make. It leaves that as it is, and so
the second fetch renews the copy once more. -/
theorem climbing_root_renews_twice :
    let host := quietHost "a/b/.."
    let w : World := ⟨oldShelfBeside, []⟩
    (∀ suite : TestSuite, ∀ name ∈ (suite.copy host.config).artifacts,
        Artifact.modified host.config w.files name = .ok ⟨2⟩) ∧ (⟨2⟩ : Timestamp) ≤ w.files.now ∧
      (∀ suite : TestSuite, host.unpacker.InTime (suite.copy host.config).directory) ∧
      (∀ launch w, (host.executor.respond .run launch w).files = w.files) ∧
      fetches host (Task.all.filter twoTasks.selects) w =
        [(.test262, .ok .renewed), (.test262, .ok .renewed)] := by
  intro host w
  refine ⟨fun suite name hname => ?_, by decide,
    fun suite => Unpacker.inTime_tar (suite.copy host.config).directory, fun _ _ => rfl, ?_⟩
  · have hlisted : ∀ suite : TestSuite, ∀ name ∈ (suite.copy host.config).artifacts,
        name ∈ ["TEST262", "TESTNASHORN", "TESTNASHORN_EXTERNAL", "TESTV8"] := by
      intro suite
      cases suite <;> decide
    have hdated : ∀ name ∈ ["TEST262", "TESTNASHORN", "TESTNASHORN_EXTERNAL", "TESTV8"],
        Artifact.modified host.config oldShelfBeside name = .ok ⟨2⟩ := by
      simp only [List.forall_mem_cons]
      exact ⟨by cbv, by cbv, by cbv, by cbv, List.forall_mem_nil _⟩
    exact hdated name (hlisted suite name hname)
  · obtain ⟨after, hafter⟩ : ∃ after, ∀ journal,
        ((TestSuite.test262.fetch host).perform ⟨oldShelfReached, journal⟩).map id World.files =
          (.ok .renewed, after) := ⟨_, fun journal => by cbv⟩
    have htwice : FetchesTwice "a/b/.." oldShelfBeside oldShelfReached after .renewed .renewed :=
      ⟨fun journal => by cbv, hafter⟩
    exact htwice.fetches_eq

end Gate

end Launchpad
