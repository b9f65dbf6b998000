import Launchpad.Launch.Deployment
import Launchpad.Proofs.Launch.Calls
import Launchpad.Proofs.Text.Trimmed

/-!
When binaries are deployed. The branch is asked for once, and the deploying program is launched,
once, exactly if the answer is the primary branch and there is a program to launch. Every other
reply has an end of its own, without a launch. A configuration that lacks nothing names a branch
that no blank answer can be.
-/

namespace Launchpad.Deployment

open Launchpad.Action Launchpad.Text

/-- The question for the active branch. -/
def question (host : Host) : Command :=
  { program := "git"
    args := ["rev-parse", "--abbrev-ref", "HEAD"]
    cwd? := some host.config.suite.directory
    stderr := .null }

/-- How a deployment goes on from the reply to the question, in the world in which the reply came:
the answer or failure of the deployment, and the launches that it made. -/
inductive Proceeds (host : Host) (args : List String) (asked : World) :
    Except Failure (Int × String) → Except Failure Outcome → List (CallMode × Command) → Prop where
  | unanswered (failure : Failure) :
      Proceeds host args asked (.error failure) (.error failure) []
  | refused {status : Int} (caught : String) (hstatus : status ≠ 0) :
      Proceeds host args asked (.ok (status, caught)) (.error (.child (question host) status)) []
  | elsewhere {output active : String} (h : Trimmed output active)
      (hother : active ≠ host.config.suite.primaryBranch) :
      Proceeds host args asked (.ok (0, output))
        (.ok (.skipped active host.config.suite.primaryBranch)) []
  | nothing {output : String} (h : Trimmed output host.config.suite.primaryBranch)
      (hnone : host.config.deploy.command = []) :
      Proceeds host args asked (.ok (0, output)) (.error (.config (.invalid .commandEmpty))) []
  | launched {output program : String} {leading : List String} {launch : Command}
      (h : Trimmed output host.config.suite.primaryBranch)
      (hcommand : host.config.deploy.command = program :: leading)
      (hlaunch : launch =
        { program := program
          args := leading ++ args
          cwd? := some host.config.suite.directory }) :
      Proceeds host args asked (.ok (0, output))
        ((host.executor.respond .run launch (asked.record launch.starts)).outcome.map
          fun reply => .deployed reply.1)
        [(.run, launch)]

variable {host : Host}

/-- What comes of the launch that deploys: every status is accepted. -/
theorem map_deployed_await (host : Host) (launch : Command) (w : World) :
    ((host.await launch .anyStatus).perform w).1.map Outcome.deployed =
      (host.executor.respond .run launch (w.record launch.starts)).outcome.map
        fun reply => .deployed reply.1 := by
  have hsettles := host.settles_await launch .anyStatus w
  generalize (host.executor.respond .run launch (w.record launch.starts)).outcome = reply
    at hsettles ⊢
  generalize ((host.await launch .anyStatus).perform w).1 = answer at hsettles ⊢
  cases hsettles with
  | unlaunched failure => rfl
  | zero caught => rfl
  | accepted caught hstatus h => rfl
  | refused caught hstatus h => cases h

/-! ### From the branch to the launch -/

section Branch

variable {args : List String} {w asked : World} {active : String}

theorem perform_activeBranch (host : Host) (w : World) :
    (activeBranch host).perform w =
      match (host.executor.call .capture (question host)).perform w with
      | (.error failure, asked) => (.error failure, asked)
      | (.ok (status, output), asked) =>
        if status = 0 then (.ok (trim output), asked)
        else (.error (.child (question host) status), asked) := by
  unfold activeBranch
  rw [perform_bind, show branchQuery host = question host from rfl]
  rcases (host.executor.call .capture (question host)).perform w with ⟨reply, asked⟩
  cases reply with
  | error failure => rfl
  | ok answer =>
    obtain ⟨status, output⟩ := answer
    by_cases hstatus : status = 0
    · simp [hstatus]
    · simp [hstatus]
      rfl

theorem perform_run_of_error {failure : Failure}
    (h : (activeBranch host).perform w = (.error failure, asked)) :
    (run host args).perform w = (.error failure, asked) := by
  simp only [run, perform_bind, h]

theorem perform_run_elsewhere (h : (activeBranch host).perform w = (.ok active, asked))
    (hother : active ≠ host.config.suite.primaryBranch) :
    (run host args).perform w =
      (.ok (.skipped active host.config.suite.primaryBranch),
        asked.record (.logged ⟨.warn, warning active host.config.suite.primaryBranch, []⟩)) := by
  simp only [run, perform_bind, h, if_pos hother, perform_log]
  rfl

/-- On the primary branch, all that is left to do is what the configured command asks for. -/
theorem perform_run_there
    (h : (activeBranch host).perform w = (.ok host.config.suite.primaryBranch, asked)) :
    (run host args).perform w =
      match command? host args with
      | none => (.error (.config (.invalid .commandEmpty)), asked)
      | some launch =>
        (((host.await launch .anyStatus).perform asked).1.map .deployed,
          ((host.await launch .anyStatus).perform asked).2) := by
  have hprimary : ¬ host.config.suite.primaryBranch ≠ host.config.suite.primaryBranch :=
    fun hne => hne rfl
  simp only [run, perform_bind, h, if_neg hprimary]
  cases command? host args with
  | none => rfl
  | some launch =>
    simp only [perform_bind]
    rcases (host.await launch .anyStatus).perform asked with ⟨answer, ended⟩
    cases answer with
    | error failure => rfl
    | ok status => rfl

end Branch

/-- What is done once the branch has been asked for. -/
theorem proceeds_run (host : Host) (args : List String) (w : World) :
    ∃ launches,
      ((run host args).perform w).2.calls =
          w.calls ++ (.capture, question host) :: launches ∧
        Proceeds host args ((host.executor.call .capture (question host)).perform w).2
          (host.executor.respond .capture (question host) w).outcome
          ((run host args).perform w).1 launches := by
  have hcalls := host.executor.calls_call .capture (question host) w
  have hbranch := perform_activeBranch host w
  rw [← host.executor.perform_call_fst .capture (question host) w]
  rcases hasked : (host.executor.call .capture (question host)).perform w with ⟨reply, asked⟩
  rw [hasked] at hcalls hbranch
  rcases reply with failure | ⟨status, output⟩
  · rw [perform_run_of_error hbranch]
    exact ⟨[], hcalls, .unanswered failure⟩
  by_cases hstatus : status = 0
  · subst hstatus
    replace hbranch : (activeBranch host).perform w = (.ok (trim output), asked) := hbranch
    by_cases hprimary : trim output = host.config.suite.primaryBranch
    · have htrimmed : Trimmed output host.config.suite.primaryBranch :=
        trimmed_iff.mpr hprimary.symm
      rw [hprimary] at hbranch
      rw [perform_run_there hbranch]
      cases hcommand : host.config.deploy.command with
      | nil =>
        simp only [command?, hcommand]
        exact ⟨[], hcalls, .nothing htrimmed hcommand⟩
      | cons program leading =>
        let launch : Command :=
          { program := program, args := leading ++ args, cwd? := some host.config.suite.directory }
        have hlaunch : command? host args = some launch := by simp only [command?, hcommand, launch]
        simp only [hlaunch, map_deployed_await, host.calls_await]
        refine ⟨[(.run, launch)], ?_, .launched htrimmed hcommand rfl⟩
        rw [hcalls, List.append_assoc]
        rfl
    · rw [perform_run_elsewhere hbranch hprimary]
      refine ⟨[], ?_, .elsewhere (trimmed_trim output) hprimary⟩
      exact (calls_record_logged asked _).trans hcalls
  · replace hbranch : (activeBranch host).perform w =
        (.error (.child (question host) status), asked) := by
      rw [hbranch]
      exact if_neg hstatus
    rw [perform_run_of_error hbranch]
    exact ⟨[], hcalls, .refused output hstatus⟩

namespace Proceeds

variable {args : List String} {asked : World} {reply : Except Failure (Int × String)}
  {answer : Except Failure Outcome} {launches : List (CallMode × Command)}

theorem launches_ne_nil_iff (h : Proceeds host args asked reply answer launches) :
    launches ≠ [] ↔ ∃ output, reply = .ok (0, output) ∧
      Trimmed output host.config.suite.primaryBranch ∧ host.config.deploy.command ≠ [] := by
  cases h with
  | unanswered => simp
  | refused caught hstatus => simp [hstatus]
  | @elsewhere output active htrimmed hother =>
    constructor
    · intro hlaunches
      exact absurd rfl hlaunches
    · rintro ⟨output', heq, hprimary, -⟩
      cases heq
      exact absurd (htrimmed.eq_trim.trans hprimary.eq_trim.symm) hother
  | nothing htrimmed hnone => simp [hnone]
  | launched htrimmed hcommand hlaunch => simp [hcommand, htrimmed]

/-- A deployment that launches nothing and does not fail was passed over, which is no failure. -/
theorem status_eq_zero (h : Proceeds host args asked reply answer launches) {outcome : Outcome}
    (hanswer : answer = .ok outcome) (hnone : launches = []) : outcome.status = 0 := by
  cases h with
  | unanswered => cases hanswer
  | refused => cases hanswer
  | elsewhere =>
    cases hanswer
    rfl
  | nothing => cases hanswer
  | launched => cases hnone

end Proceeds

theorem primaryBranch_not_blank {c : Config} (h : c.validate = .ok ()) :
    isBlankText c.suite.primaryBranch = false := by
  unfold Config.validate Config.invalid? at h
  by_contra hblank
  rw [Bool.not_eq_false] at hblank
  by_cases hjava : isBlankText c.suite.java = true
  · rw [if_pos hjava] at h
    cases h
  · rw [if_neg hjava, if_pos hblank] at h
    cases h

/-- The branch is asked for once. The deploying program is launched only on the primary branch, and
there exactly once unless there is none to launch; in a configuration that lacks nothing, a blank
answer never leads to a launch. -/
theorem launches_only_from_primary_branch (host : Host) (args : List String) (w : World) :
    let reply := (host.executor.respond .capture (question host) w).outcome
    let asked := ((host.executor.call .capture (question host)).perform w).2
    let answer := ((run host args).perform w).1
    ∃ launches,
      ((run host args).perform w).2.calls = w.calls ++ (.capture, question host) :: launches ∧
      Proceeds host args asked reply answer launches ∧
      (launches ≠ [] ↔ ∃ output, reply = .ok (0, output) ∧
        Trimmed output host.config.suite.primaryBranch ∧ host.config.deploy.command ≠ []) ∧
      (∀ outcome, answer = .ok outcome → launches = [] → outcome.status = 0) ∧
      (host.config.validate = .ok () → ∀ status output, reply = .ok (status, output) →
        isBlankText output = true → launches = []) := by
  intro reply asked answer
  obtain ⟨launches, hcalls, hproceeds⟩ := proceeds_run host args w
  refine ⟨launches, hcalls, hproceeds, hproceeds.launches_ne_nil_iff,
    fun _ => hproceeds.status_eq_zero, fun hvalid status output hreply hblank => ?_⟩
  by_contra hlaunches
  obtain ⟨output', hreply', htrimmed, -⟩ := hproceeds.launches_ne_nil_iff.mp hlaunches
  have hsame : output' = output := by
    cases hreply.symm.trans hreply'
    rfl
  rw [hsame] at htrimmed
  have hnot := primaryBranch_not_blank hvalid
  rw [htrimmed.eq_empty hblank] at hnot
  cases hnot

/-- Of an answer that is all white space nothing is left, and a branch has a name. -/
theorem no_launch_on_blank_answer :
    let host : Host :=
      { config := { deploy := { command := ["rsync", "bin"] } }
        executor := ⟨fun _ _ w => { outcome := .ok (0, " \n"), files := w.files, output := [] }⟩
        arch := .standard }
    let w : World := ⟨⟨[], 0, ⟨0⟩, []⟩, []⟩
    host.config.validate = .ok () ∧
      ((run host ["now"]).perform w).2.calls = w.calls ++ [(.capture, question host)] := by
  intro host w
  have hvalid : host.config.validate = .ok () := by cbv
  obtain ⟨launches, hcalls, -, -, -, hblank⟩ := launches_only_from_primary_branch host ["now"] w
  have hnone : launches = [] := hblank hvalid 0 " \n" rfl (by rfl)
  exact ⟨hvalid, hnone ▸ hcalls⟩

end Launchpad.Deployment
