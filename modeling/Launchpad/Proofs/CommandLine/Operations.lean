import Launchpad.CommandLine.Run
import Launchpad.Proofs.Children
import Launchpad.Proofs.Copy.Quiet
import Launchpad.Proofs.Gate.Runs

/-!
What each operation tells of its children, function by function. Loading a configuration and
renewing a copy start none. A launch tells the status of its one child; the gate goes from task to
task only as long as every child ends with zero; a deployment asks for the branch first, and gives
up if that child does not end with zero.
-/

namespace Launchpad

open Launchpad.Action Results

variable {c : Config} {host : Host} {files : FileSystem}

/-! ### What starts no child -/

theorem Failure.childStatus_of_precedesLaunch {failure : Failure}
    (h : failure.precedesLaunch = true) : failure.childStatus = 0 := by
  cases failure with
  | child => cases h
  | _ => rfl

/-- What calls nobody starts no child. -/
theorem Action.Quiet.keeps {α : Type} {logs : LogEntry → Prop} {allowed : Failure → Prop}
    {a : Action α} (h : a.Quiet logs allowed)
    (hallowed : ∀ failure, allowed failure → failure.childStatus = 0) : a.Keeps 0 := by
  induction h with
  | pure x => exact .pure x
  | throw hfailure => exact .throw (hallowed _ hfailure)
  | bind _ _ ih ihnext => exact .bind ih ihnext
  | files => exact .files
  | log => exact .log ..
  | change hfailure => exact .change fun e => hallowed _ (hfailure e)

theorem Copy.ensureCurrent_keeps (copy : Copy) (host : Host) :
    (copy.ensureCurrent host).Keeps 0 :=
  (copy.ensureCurrent_preparesPlainly host).keeps fun _ => Failure.childStatus_of_precedesLaunch

theorem Config.discover_keeps (explicit? : Option Path) (settings : Path) :
    (Config.discover explicit? settings).Keeps 0 := by
  unfold discover
  refine .bind .files fun files => ?_
  split
  · unfold load
    refine .bind .files fun files => ?_
    exact .bind (.ofExcept fun _ _ => rfl) fun c => .bind (.log ..) fun _ => .pure c
  · exact .bind (.log ..) fun _ => .pure _

/-! ### What waits for children -/

/-- What is answered for a child that was waited for: its status, and that is zero if nothing else
is accepted. -/
def Expectation.Verdict (expectation : Expectation) (answer total : Int) : Prop :=
  total = answer ∧ (expectation = .success → answer = 0)

section

variable (h : host.executor.TellsEnds)
include h

theorem Host.await_tells (command : Command) (expectation : Expectation) :
    (host.await command expectation).Tells 0 expectation.Verdict := by
  unfold await
  refine .past (.log ..) fun _ => .bind (.call h .run command) fun answer total htotal => ?_
  obtain ⟨status, caught⟩ := answer
  obtain rfl : status = total := htotal.symm
  by_cases hstatus : status = 0
  · simp only [hstatus, ne_eq, not_true_eq_false, if_false]
    exact .pure ⟨rfl, fun _ => rfl⟩
  · simp only [hstatus, ne_eq, not_false_eq_true, if_true]
    cases expectation with
    | success => exact .throw_bind rfl
    | anyStatus => exact .past (.log ..) fun _ => .pure ⟨rfl, nofun⟩

theorem Shell.run_tells (shell : Shell) (tokens : List String) (expectation : Expectation) :
    (shell.run host tokens expectation).Tells 0 expectation.Verdict := by
  unfold run
  exact .past (.ofExcept fun _ _ => rfl) fun launch => Host.await_tells h launch expectation

theorem UnitTests.runPackage_tells (args : List String) (package : String)
    (expectation : Expectation) :
    (runPackage host args package expectation).Tells 0 expectation.Verdict := by
  unfold runPackage
  exact .past (.ofExcept fun _ _ => rfl) fun launch => Host.await_tells h launch expectation

theorem SuiteProfile.run_tells (profile : SuiteProfile) (args : List String)
    (expectation : Expectation) :
    (profile.run host args expectation).Tells 0 expectation.Verdict := by
  unfold run
  refine .past (Copy.ensureCurrent_keeps ..) fun outcome => .past (.log ..) fun _ => ?_
  exact .past (.ofExcept fun _ _ => rfl) fun launch => Host.await_tells h launch expectation

theorem SmokeTests.run_tells (binary : Path) :
    (run host binary).Tells 0 Expectation.success.Verdict := by
  have hscripts : ∀ files top failure, scripts files top = .error failure →
      failure.childStatus = 0 := by
    intro files top failure hfailure
    unfold scripts at hfailure
    split at hfailure
    · cases hfailure
    · cases hfailure
      rfl
  unfold run
  refine .past .files fun files => ?_
  split
  · exact .throw rfl
  · refine .past (.ofExcept (hscripts files _)) fun found => ?_
    split
    · exact .throw rfl
    · exact Host.await_tells h _ .success

namespace Deployment

theorem activeBranch_keeps : (activeBranch host).Keeps 0 := by
  unfold activeBranch
  refine Tells.bind (.call h .capture (branchQuery host)) fun answer total htotal => ?_
  obtain ⟨status, output⟩ := answer
  obtain rfl : status = total := htotal.symm
  by_cases hstatus : status = 0
  · simp only [hstatus, ne_eq, not_true_eq_false, if_false]
    exact .pure rfl
  · simp only [hstatus, ne_eq, not_false_eq_true, if_true]
    exact .throw_bind rfl

theorem run_tells (args : List String) :
    (run host args).Tells 0 fun outcome total => total = outcome.status := by
  unfold run
  refine .past (activeBranch_keeps h) fun active => ?_
  split
  · exact .past (.log ..) fun _ => .pure rfl
  · split
    · exact .throw rfl
    · exact .bind (Host.await_tells h _ .anyStatus) fun status total htotal => .pure htotal.1

end Deployment

namespace Gate

theorem Task.run_tells (task : Task) : (task.run host).Tells 0 Expectation.success.Verdict := by
  unfold run
  split
  · exact Shell.run_tells h .js _ .success
  · exact UnitTests.runPackage_tells h [] _ .success
  · rename_i command args _
    cases command with
    | unitTest => exact UnitTests.runPackage_tells h args _ .success
    | test262 => exact SuiteProfile.run_tells h _ args .success
    | testNashorn => exact SuiteProfile.run_tells h _ args .success
    | testV8 => exact SuiteProfile.run_tells h _ args .success

theorem runTask_keeps (task : Task) : (runTask host task).Keeps 0 := by
  -- The status of a task is not used any further. It is zero, for no other is accepted.
  have hwork : (do let _ ← task.run host; Pure.pure PUnit.unit : Action PUnit).Keeps 0 :=
    Tells.bind (task.run_tells h) fun status total htotal => .pure (htotal.1.trans (htotal.2 rfl))
  unfold runTask
  refine .bind (.log ..) fun _ => .bind .files fun before => ?_
  refine .bind (.tryCatch hwork fun failure => .past (.log ..) fun _ => .throw rfl) fun _ => ?_
  exact .bind .files fun after => .bind (.log ..) fun _ => .pure _

theorem run_keeps (filter : TagFilter) (rehearsal : Bool) (tasks : List Task) :
    (run host filter rehearsal tasks).Keeps 0 := by
  induction tasks with
  | nil => exact .pure _
  | cons task rest ih =>
    cases hselects : filter.selects task with
    | false =>
      rw [run_skipped host rehearsal rest hselects]
      exact .bind ih fun report => .pure _
    | true =>
      rw [run_selected host rehearsal rest hselects]
      refine .bind ?_ fun elapsed => .bind ih fun report => .pure _
      cases rehearsal with
      | false => exact runTask_keeps h task
      | true => exact .bind (.log ..) fun _ => .pure _

end Gate

namespace CommandLine

theorem Operation.run_tells (operation : Operation) :
    (operation.run host).Tells 0 fun answer total => total = answer := by
  cases operation with
  | shell shell args =>
    exact (Shell.run_tells h shell args .success).imp fun _ _ hverdict => hverdict.1
  | suite suite args =>
    exact (SuiteProfile.run_tells h _ args .success).imp fun _ _ hverdict => hverdict.1
  | unitTests args =>
    exact (UnitTests.runPackage_tells h args _ .success).imp fun _ _ hverdict => hverdict.1
  | deploy args =>
    exact .bind (Deployment.run_tells h args) fun outcome total htotal => .pure htotal
  | smokeTests binary => exact (SmokeTests.run_tells h binary).imp fun _ _ hverdict => hverdict.1
  | gate tags rehearsal =>
    refine .past (Gate.run_keeps h ⟨tags⟩ rehearsal Gate.Task.all) fun report => ?_
    refine .past (.forIn _ fun line => ?_) fun _ => .pure rfl
    exact .bind (.print ..) fun _ => .pure _
  | component => exact .past (.print ..) fun _ => .pure rfl

end CommandLine

end

end Launchpad
