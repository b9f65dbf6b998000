import Launchpad.Proofs.Launch.Deployment

/-!
Which configurations that lack nothing can deploy. What git answers is trimmed, the branch that it
is held against is not; and of the deploying command only the number of words was looked at. So a
branch with white space at an end is never found active, and a program that is white space is
started all the same.
-/

namespace Launchpad.Deployment

open Launchpad.Text

variable {host : Host} {args : List String} {w : World}

/-- The answer of git when a branch is active. -/
def answered (branch : String) : Except Failure (Int × String) := .ok (0, branch ++ "\n")

/-- Git says that the primary branch is active. -/
def OnPrimary (host : Host) (w : World) : Prop :=
  (host.executor.respond .capture (question host) w).outcome =
    answered host.config.suite.primaryBranch

/-- A deployment hands over one command beside the question, and its program has a name. -/
def DeploysOnce (host : Host) (args : List String) (w : World) : Prop :=
  ∃ launch, ((run host args).perform w).2.calls =
      w.calls ++ [(.capture, question host), (.run, launch)] ∧
    isBlankText launch.program = false

/-- The branch has no white space at an end, and the deploying program is more than white space. -/
structure Deployable (c : Config) : Prop where
  branch : trim c.suite.primaryBranch = c.suite.primaryBranch
  program : ∀ program ∈ c.deploy.command.head?, isBlankText program = false

/-- Only the question was put, and the deployment was passed over as if on another branch. -/
def PassesOver (host : Host) (args : List String) (w : World) : Prop :=
  ((run host args).perform w).2.calls = w.calls ++ [(.capture, question host)] ∧
    ((run host args).perform w).1 =
      .ok (.skipped (trim host.config.suite.primaryBranch) host.config.suite.primaryBranch)

/-- The configured command was launched after the question, with the arguments behind its own. -/
def Launches (host : Host) (args : List String) (w : World) : Prop :=
  ∃ program leading, host.config.deploy.command = program :: leading ∧
    ((run host args).perform w).2.calls =
      w.calls ++ [(.capture, question host),
        (.run, { program := program
                 args := leading ++ args
                 cwd? := some host.config.suite.directory })]

theorem invalid?_eq_none {c : Config} (h : c.validate = .ok ()) : c.invalid? = none := by
  unfold Config.validate at h
  cases hwhy : c.invalid? with
  | none => rfl
  | some why =>
    rw [hwhy] at h
    cases h

theorem command_ne_nil {c : Config} (h : c.validate = .ok ()) : c.deploy.command ≠ [] := by
  intro hnone
  have hlacks := invalid?_eq_none h
  rw [Config.invalid?, if_pos hnone] at hlacks
  split at hlacks
  · cases hlacks
  · split at hlacks <;> cases hlacks

theorem trimmed_answered_iff (branch active : String) :
    Trimmed (branch ++ "\n") active ↔ active = trim branch := by
  have hkept : Trimmed (branch ++ "\n") (trim branch) :=
    (trimmed_trim branch).append_blank (by rfl)
  rw [trimmed_iff, ← hkept.eq_trim]

/-- On the primary branch of a configuration that lacks nothing, the ends of the branch's own name
decide between passing over and launching. -/
theorem run_on_primary (args : List String) (hvalid : host.config.validate = .ok ())
    (hprimary : OnPrimary host w) :
    (trim host.config.suite.primaryBranch ≠ host.config.suite.primaryBranch ∧
        PassesOver host args w) ∨
      (trim host.config.suite.primaryBranch = host.config.suite.primaryBranch ∧
        Launches host args w) := by
  obtain ⟨launches, hcalls, hproceeds⟩ := proceeds_run host args w
  unfold PassesOver
  generalize ((run host args).perform w).1 = answer at hproceeds ⊢
  rw [hprimary, answered] at hproceeds
  cases hproceeds with
  | refused caught hstatus => exact absurd rfl hstatus
  | elsewhere htrimmed hother =>
    rw [(trimmed_answered_iff _ _).mp htrimmed] at hother ⊢
    exact .inl ⟨hother, hcalls, rfl⟩
  | nothing htrimmed hnone => exact absurd hnone (command_ne_nil hvalid)
  | launched htrimmed hcommand hlaunch =>
    subst hlaunch
    exact .inr ⟨((trimmed_answered_iff _ _).mp htrimmed).symm, _, _, hcommand, hcalls⟩

theorem PassesOver.not_deploysOnce (h : PassesOver host args w) : ¬DeploysOnce host args w := by
  rintro ⟨launch, hlaunch, -⟩
  rw [h.1] at hlaunch
  simp at hlaunch

theorem Launches.deploysOnce_iff (h : Launches host args w) :
    DeploysOnce host args w ↔
      ∀ program ∈ host.config.deploy.command.head?, isBlankText program = false := by
  obtain ⟨program, leading, hcommand, hcalls⟩ := h
  rw [hcommand, DeploysOnce, hcalls]
  simp

/-- Of the configurations that lack nothing, exactly those deploy from their primary branch whose
branch has no white space at an end and whose program is more than white space. With such white
space the branch is taken for another one, and nothing is launched; without it the configured
command is launched once, whatever its program is. -/
theorem deploys_once_iff_deployable (args : List String)
    (hvalid : host.config.validate = .ok ()) (hprimary : OnPrimary host w) :
    (DeploysOnce host args w ↔ Deployable host.config) ∧
      (trim host.config.suite.primaryBranch ≠ host.config.suite.primaryBranch →
        PassesOver host args w) ∧
      (trim host.config.suite.primaryBranch = host.config.suite.primaryBranch →
        Launches host args w) := by
  rcases run_on_primary args hvalid hprimary with ⟨hother, hpasses⟩ | ⟨hsame, hlaunches⟩
  · refine ⟨⟨fun hdeploys => ?_, fun hdeployable => ?_⟩, fun _ => hpasses, fun hsame => ?_⟩
    · exact absurd hdeploys hpasses.not_deploysOnce
    · exact absurd hdeployable.branch hother
    · exact absurd hsame hother
  · refine ⟨hlaunches.deploysOnce_iff.trans ⟨fun hprogram => ?_, fun hdeployable => ?_⟩,
      fun hother => ?_, fun _ => hlaunches⟩
    · exact ⟨hsame, hprogram⟩
    · exact hdeployable.program
    · exact absurd hsame hother

/-- An executor whose every child ends with the answer of git for a branch. -/
def gitAnswers (branch : String) : Executor :=
  ⟨fun _ _ w => { outcome := answered branch, files := w.files, output := [] }⟩

def onBranch (branch : String) (command : List String) : Host :=
  { config := { suite := { primaryBranch := branch }, deploy := { command := command } }
    executor := gitAnswers branch
    arch := .standard }

theorem onPrimary_onBranch (branch : String) (command : List String) (w : World) :
    OnPrimary (onBranch branch command) w := rfl

/-- White space inside the name of a branch is part of it. -/
theorem deploys_once_from_spaced_branch :
    (onBranch "release one" ["rsync", "bin"]).config.validate = .ok () ∧
      OnPrimary (onBranch "release one" ["rsync", "bin"]) default ∧
      DeploysOnce (onBranch "release one" ["rsync", "bin"]) ["now"] default := by
  have hvalid : (onBranch "release one" ["rsync", "bin"]).config.validate = .ok () := by rfl
  have hprimary := onPrimary_onBranch "release one" ["rsync", "bin"] default
  have hbranch : trim "release one" = "release one" := by rfl
  have hprogram : ∀ program ∈ ["rsync", "bin"].head?, isBlankText program = false := by
    simp [isBlankText, isBlank]
  exact ⟨hvalid, hprimary,
    (deploys_once_iff_deployable ["now"] hvalid hprimary).1.mpr ⟨hbranch, hprogram⟩⟩

/-- Neither a branch that ends in a no-break space nor a program without a name is found out. -/
theorem validated_not_deploying :
    ((onBranch "main\u00a0" ["mx", "deploy-binary"]).config.validate = .ok () ∧
        OnPrimary (onBranch "main\u00a0" ["mx", "deploy-binary"]) default ∧
        ¬DeploysOnce (onBranch "main\u00a0" ["mx", "deploy-binary"]) [] default) ∧
      ((onBranch "main" [""]).config.validate = .ok () ∧
        OnPrimary (onBranch "main" [""]) default ∧
        ¬DeploysOnce (onBranch "main" [""]) [] default) := by
  have hpadded : (onBranch "main\u00a0" ["mx", "deploy-binary"]).config.validate = .ok () := by rfl
  have hnameless : (onBranch "main" [""]).config.validate = .ok () := by rfl
  have honPadded := onPrimary_onBranch "main\u00a0" ["mx", "deploy-binary"] default
  have honNameless := onPrimary_onBranch "main" [""] default
  have hends : trim "main\u00a0" ≠ "main\u00a0" := by decide
  have hwhole : trim "main" = "main" := by rfl
  refine ⟨⟨hpadded, honPadded, ?_⟩, hnameless, honNameless, ?_⟩
  · rcases run_on_primary [] hpadded honPadded with ⟨-, hpasses⟩ | ⟨hsame, -⟩
    · exact hpasses.not_deploysOnce
    · exact absurd hsame hends
  · rcases run_on_primary [] hnameless honNameless with ⟨hother, -⟩ | ⟨-, hlaunches⟩
    · exact absurd hwhole hother
    · intro hdeploys
      have hprogram := hlaunches.deploysOnce_iff.mp hdeploys "" rfl
      cases hprogram

end Launchpad.Deployment
