import Launchpad.Gate.Task
import Launchpad.Launch.SmokeTests
import Launchpad.Proofs.Copy.Quiet

/-!
Every operation launches at most once. Each is a preparation, which answers one command or fails,
and then one launch of that command. The main statement says so of all of them at once: a failure to
prepare is the failure of the operation and nothing is launched, and otherwise there is exactly one
launch, whose reply settles the result.
-/

namespace Launchpad

open Launchpad.Action

inductive Launcher where
  | shell (shell : Shell) (tokens : List String) (expectation : Expectation)
  | profile (profile : SuiteProfile) (args : List String) (expectation : Expectation)
  | suite (suite : TestSuite) (args : List String) (expectation : Expectation)
  | unitTests (args : List String) (expectation : Expectation)
  | smokeTests (binary : Path)
  | testCommand (command : Gate.TestCommand) (args : List String) (expectation : Expectation)
  | task (task : Gate.Task)

/-! ### What goes before a launch -/

/-- What the launch of a suite needs: a current copy, and arguments that can be sorted. -/
def SuiteProfile.preparation (profile : SuiteProfile) (host : Host) (args : List String) :
    Action Command := do
  let outcome ← (profile.copy host.config).ensureCurrent host
  Action.log .debug "Suite fetched"
    [("suite", .name profile.name), ("outcome", .plain outcome.word)]
  Action.ofExcept .argument (profile.command host args)

/-- What the launch of unit tests needs: arguments that can be sorted. -/
def UnitTests.preparation (host : Host) (args : List String) (package : String) :
    Action Command :=
  Action.ofExcept .argument (command host args [package])

/-- What the launch over smoke tests needs: a directory with scripts in it. -/
def SmokeTests.preparation (host : Host) (binary : Path) : Action Command := do
  let top := host.config.suitePath directory
  let files ← Action.files
  if !files.isDirectory top then throw (.noSmokeTests top)
  else
    let found ← Action.ofExcept id (scripts files top)
    if found = [] then throw (.noSmokeTests top)
    else return command binary found

def Gate.TestCommand.preparation (command : TestCommand) (host : Host) (args : List String) :
    Action Command :=
  match command with
  | .test262 => (TestSuite.test262.profile host.arch).preparation host args
  | .testNashorn => (TestSuite.testNashorn.profile host.arch).preparation host args
  | .testV8 => (TestSuite.testV8.profile host.arch).preparation host args
  | .unitTest => UnitTests.preparation host args host.config.unitTest.package

namespace Launcher

def run (host : Host) : Launcher → Action Int
  | .shell which tokens expectation => which.run host tokens expectation
  | .profile which args expectation => which.run host args expectation
  | .suite which args expectation => which.run host args expectation
  | .unitTests args expectation => UnitTests.run host args expectation
  | .smokeTests binary => SmokeTests.run host binary
  | .testCommand which args expectation => which.run host args expectation
  | .task which => which.run host

/-- What is expected of the launch. Smoke tests and tasks of the gate have to succeed. -/
def expectation : Launcher → Expectation
  | .shell _ _ expectation | .profile _ _ expectation | .suite _ _ expectation
  | .unitTests _ expectation | .testCommand _ _ expectation => expectation
  | .smokeTests _ | .task _ => .success

/-- Everything that is done before the launch. -/
def preparation (host : Host) : Launcher → Action Command
  | .shell which tokens _ => Action.ofExcept .argument (which.command host tokens true)
  | .profile which args _ => which.preparation host args
  | .suite which args _ => (which.profile host.arch).preparation host args
  | .unitTests args _ => UnitTests.preparation host args host.config.unitTest.package
  | .smokeTests binary => SmokeTests.preparation host binary
  | .testCommand which args _ => which.preparation host args
  | .task which =>
    match which.action with
    | .script args => Action.ofExcept .argument (Shell.js.command host args true)
    | .scriptEngine => UnitTests.preparation host [] host.config.unitTest.scriptEnginePackage
    | .test command args => command.preparation host args

end Launcher

theorem SuiteProfile.run_eq (profile : SuiteProfile) (host : Host) (args : List String)
    (expectation : Expectation) :
    profile.run host args expectation =
      profile.preparation host args >>= fun launch => host.await launch expectation := by
  simp [SuiteProfile.run, SuiteProfile.preparation]

theorem SmokeTests.run_eq (host : Host) (binary : Path) :
    run host binary = preparation host binary >>= fun launch => host.await launch .success := by
  have hthrow : ∀ failure : Failure,
      (throw failure >>= fun launch => host.await launch .success : Action Int) =
        throw failure := fun _ => rfl
  unfold run preparation
  simp only [bind_assoc]
  congr 1
  funext files
  split
  · exact (hthrow _).symm
  · simp only [bind_assoc]
    congr 1
    funext found
    split
    · exact (hthrow _).symm
    · rfl

theorem Gate.TestCommand.run_eq (command : TestCommand) (host : Host) (args : List String)
    (expectation : Expectation) :
    command.run host args expectation =
      command.preparation host args >>= fun launch => host.await launch expectation := by
  cases command with
  | unitTest => rfl
  | test262 | testNashorn | testV8 => exact SuiteProfile.run_eq _ host args expectation

/-- An operation is its preparation and a launch behind it. -/
theorem Launcher.run_eq (launcher : Launcher) (host : Host) :
    launcher.run host =
      launcher.preparation host >>= fun launch => host.await launch launcher.expectation := by
  cases launcher with
  | shell which tokens expectation => rfl
  | profile which args expectation => exact which.run_eq host args expectation
  | suite which args expectation => exact SuiteProfile.run_eq _ host args expectation
  | unitTests args expectation => rfl
  | smokeTests binary => exact SmokeTests.run_eq host binary
  | testCommand which args expectation => exact which.run_eq host args expectation
  | task which =>
    obtain ⟨name, tags, action⟩ := which
    cases action with
    | script args => rfl
    | scriptEngine => rfl
    | test command args => exact command.run_eq host args .success

/-! ### Preparing launches nothing -/

theorem SuiteProfile.preparation_prepares (profile : SuiteProfile) (host : Host)
    (args : List String) : (profile.preparation host args).Prepares := by
  unfold preparation
  refine .bind (Copy.ensureCurrent_prepares ..) fun outcome => ?_
  exact .bind (.log trivial) fun _ => .ofExcept fun _ _ => rfl

theorem UnitTests.preparation_prepares (host : Host) (args : List String) (package : String) :
    (preparation host args package).Prepares :=
  .ofExcept fun _ _ => rfl

theorem SmokeTests.preparation_prepares (host : Host) (binary : Path) :
    (preparation host binary).Prepares := by
  have hscripts : ∀ files top failure, scripts files top = .error failure →
      failure.precedesLaunch = true := by
    intro files top failure hfailure
    unfold scripts at hfailure
    split at hfailure
    · cases hfailure
    · cases hfailure
      rfl
  unfold preparation
  refine .bind .files fun files => ?_
  split
  · exact .throw rfl
  · refine .bind (.ofExcept (hscripts files _)) fun found => ?_
    split
    · exact .throw rfl
    · exact .pure _

theorem Gate.TestCommand.preparation_prepares (command : TestCommand) (host : Host)
    (args : List String) : (command.preparation host args).Prepares := by
  cases command with
  | unitTest => exact UnitTests.preparation_prepares host args _
  | test262 | testNashorn | testV8 => exact SuiteProfile.preparation_prepares _ host args

theorem Launcher.preparation_prepares (launcher : Launcher) (host : Host) :
    (launcher.preparation host).Prepares := by
  cases launcher with
  | shell which tokens => exact .ofExcept fun _ _ => rfl
  | profile which args => exact which.preparation_prepares host args
  | suite which args => exact SuiteProfile.preparation_prepares _ host args
  | unitTests args => exact UnitTests.preparation_prepares host args _
  | smokeTests binary => exact SmokeTests.preparation_prepares host binary
  | testCommand which args => exact which.preparation_prepares host args
  | task which =>
    obtain ⟨name, tags, action⟩ := which
    cases action with
    | script args => exact .ofExcept fun _ _ => rfl
    | scriptEngine => exact UnitTests.preparation_prepares host [] _
    | test command args => exact command.preparation_prepares host args

/-- Every operation launches at most once, and captures nothing. If its preparation fails, that is
its failure, and the executor is never called. Otherwise the executor is called once, with the
command that was prepared, and its reply settles the result. -/
theorem Launcher.launches_once (launcher : Launcher) (host : Host) (w : World) :
    match (launcher.preparation host).perform w with
    | (.error failure, prepared) =>
      (launcher.run host).perform w = (.error failure, prepared) ∧
        prepared.calls = w.calls ∧ failure.precedesLaunch = true
    | (.ok launch, prepared) =>
      prepared.calls = w.calls ∧
        ((launcher.run host).perform w).2.calls = w.calls ++ [(.run, launch)] ∧
        launcher.expectation.Settles launch
          (host.executor.respond .run launch (prepared.record launch.starts)).outcome
          ((launcher.run host).perform w).1 := by
  have hprepares := launcher.preparation_prepares host
  have hcalls := hprepares.calls_perform w
  rw [launcher.run_eq, perform_bind]
  rcases hprepared : (launcher.preparation host).perform w with ⟨outcome, prepared⟩
  rw [hprepared] at hcalls
  cases outcome with
  | error failure => exact ⟨rfl, hcalls, hprepares.allowed_of_perform hprepared⟩
  | ok launch =>
    have hlaunch := host.calls_await launch launcher.expectation prepared
    rw [hcalls] at hlaunch
    exact ⟨hcalls, hlaunch, host.settles_await launch launcher.expectation prepared⟩

end Launchpad
