import Launchpad.Proofs.Arguments.Placement
import Launchpad.Proofs.Launch.Layout

/-!
What the engine's shell makes of the user's tokens. Its own property is put behind them before they
are sorted, so the property reaches the virtual machine exactly when the tokens leave no classpath
flag dangling. Where they do, the launch is not refused: the flag takes the property as a classpath.
-/

namespace Launchpad.Shell

open Arguments Results

/-- The last classpath that tokens state, by the blocks of flags in front of it. -/
def lastClasspath? (tokens : List String) : Option String :=
  (tokensBefore tokens.length tokens fun place _ => isTaken tokens place).getLast?

/-- The arguments of a launch of the engine's shell hold its property as a flag of its own, behind a
classpath of the configured jars and the last one that the user stated. -/
def SetsProperty (host : Host) (tokens : List String) (launch : Command) : Prop :=
  let classpath := host.config.launcherClasspath ++ (lastClasspath? tokens).toList
  ∃ flags program,
    launch.args =
      (if classpath = [] then [] else ["-cp", joinClasspath classpath]) ++ flags ++
        host.config.launcher.mainClass :: program ∧
      bindProgramResult ∈ flags ∧ ∀ flag ∈ flags, isVmFlag flag = true

/-- A launch of the engine's shell is refused just when the tokens of the user cannot be sorted, and
otherwise sets the property. -/
def KeepsTokens (host : Host) (tokens : List String) (withSizes : Bool) : Prop :=
  (∀ dangling, Shell.js.command host tokens withSizes = .error dangling ↔
    partition tokens host.config.launcherClasspath false = .error dangling) ∧
  ∀ launch, Shell.js.command host tokens withSizes = .ok launch → SetsProperty host tokens launch

theorem bindProgramResult_isVmFlag : isVmFlag bindProgramResult = true := by decide

/-- A launch of the engine's shell is laid out by what sorting makes of the tokens and the property
behind them. -/
theorem js_command_of_sort (host : Host) {tokens : List String} {s : Sorted} (withSizes : Bool)
    (h : sort false (tokens ++ [bindProgramResult]) = .ok s) :
    let vmArgs :=
      classpathArgs (host.config.launcherClasspath ++ s.classpath?.toList) ++ s.vmFlags
    Shell.js.command host tokens withSizes = .ok (host.java
      (vmArgs ++ addedSizes host.arch withSizes vmArgs ++
        host.config.launcher.mainClass :: s.remainder) none) := by
  have hlist := argumentList_of_partition host.arch host.config.launcher.mainClass
    withSizes (partition_of_sort host.config.launcherClasspath h)
  simp only [Shell.command, hlist]
  rfl

theorem lastClasspath?_of_sort {tokens : List String} {s : Sorted}
    (h : sort false tokens = .ok s) : lastClasspath? tokens = s.classpath? := by
  rw [classpath?_of_sort h, lastTaken?, stopPlace_false]
  rfl

/-- Tokens that can be sorted leave the property to the virtual machine. -/
theorem keepsTokens_of_sort (host : Host) {tokens : List String} {s : Sorted} (withSizes : Bool)
    (h : sort false tokens = .ok s) : KeepsTokens host tokens withSizes := by
  have hall : sort false (tokens ++ [bindProgramResult]) =
      .ok ⟨s.vmFlags ++ [bindProgramResult], s.classpath?, s.remainder⟩ := by
    rw [sort_append h, sort_vmFlag [] bindProgramResult_isVmFlag]
    simp [sort, Except.map, Sorted.append]
  have hcommand := js_command_of_sort host withSizes hall
  let vmArgs := classpathArgs (host.config.launcherClasspath ++ s.classpath?.toList) ++
    (s.vmFlags ++ [bindProgramResult])
  constructor
  · intro dangling
    rw [hcommand, partition, h]
    simp [Except.map]
  · intro launch hlaunch
    rw [hcommand, Except.ok.injEq] at hlaunch
    subst hlaunch
    refine ⟨s.vmFlags ++ [bindProgramResult] ++ addedSizes host.arch withSizes vmArgs, s.remainder,
      ?_, by simp, ?_⟩
    · rw [lastClasspath?_of_sort h]
      simp only [Host.java, classpathArgs, vmArgs, List.append_assoc]
    · intro flag hflag
      simp only [List.mem_append, List.mem_singleton] at hflag
      rcases hflag with (huser | rfl) | hsize
      · exact isVmFlag_of_mem_sort h huser
      · exact bindProgramResult_isVmFlag
      · exact isVmFlag_of_mem_addedSizes hsize

/-- Tokens that leave a classpath flag dangling are launched all the same, with the property as
their classpath. -/
theorem js_command_of_dangling (host : Host) {tokens : List String} {dangling : DanglingFlag}
    (withSizes : Bool) (h : sort false tokens = .error dangling) :
    ∃ launch flags program,
      Shell.js.command host tokens withSizes = .ok launch ∧
        launch.args = classpathArgs (host.config.launcherClasspath ++ [bindProgramResult]) ++
          flags ++ host.config.launcher.mainClass :: program := by
  obtain ⟨s, hs, hproperty⟩ := sort_concat_of_dangling h bindProgramResult
  have hcommand := js_command_of_sort host withSizes hs
  let vmArgs := classpathArgs (host.config.launcherClasspath ++ s.classpath?.toList) ++ s.vmFlags
  refine ⟨_, s.vmFlags ++ addedSizes host.arch withSizes vmArgs, s.remainder, hcommand, ?_⟩
  simp only [Host.java, vmArgs, hproperty, Option.toList_some, List.append_assoc]

/-- The engine's shell keeps the tokens of its user, and sets its property, exactly when they leave
no classpath flag dangling. A dangling flag is not refused: it takes the property as a classpath. -/
theorem keepsTokens_iff_sortable (host : Host) (tokens : List String) (withSizes : Bool) :
    (KeepsTokens host tokens withSizes ↔
      ∃ p, partition tokens host.config.launcherClasspath false = .ok p) ∧
    ∀ dangling, partition tokens host.config.launcherClasspath false = .error dangling →
      ∃ launch flags program,
        Shell.js.command host tokens withSizes = .ok launch ∧
          launch.args =
            ["-cp", joinClasspath (host.config.launcherClasspath ++ [bindProgramResult])] ++
              flags ++ host.config.launcher.mainClass :: program := by
  constructor
  · constructor
    · intro hkeeps
      cases hpartition : partition tokens host.config.launcherClasspath false with
      | ok p => exact ⟨p, rfl⟩
      | error dangling =>
        have hrefused := (hkeeps.1 dangling).mpr hpartition
        obtain ⟨launch, -, -, hlaunch, -⟩ :=
          js_command_of_dangling host withSizes (map_eq_error.mp hpartition)
        rw [hlaunch] at hrefused
        cases hrefused
    · rintro ⟨p, hp⟩
      obtain ⟨s, hs, -⟩ := map_eq_ok.mp hp
      exact keepsTokens_of_sort host withSizes hs
  · intro dangling hpartition
    obtain ⟨launch, flags, program, hlaunch, hargs⟩ :=
      js_command_of_dangling host withSizes (map_eq_error.mp hpartition)
    refine ⟨launch, flags, program, hlaunch, ?_⟩
    rw [hargs, classpathArgs, if_neg (by simp)]

/-- A lone classpath flag is launched by the engine's shell, although it cannot be sorted. -/
theorem lone_classpath_flag_not_kept :
    ¬KeepsTokens
      { config := {}, executor := ⟨fun _ _ w => ⟨.ok (0, ""), w.files, []⟩⟩, arch := .standard }
      ["-cp"] true := by
  rintro ⟨hrefused, -⟩
  have hcommand := (hrefused ⟨"-cp"⟩).mpr (by decide)
  revert hcommand
  decide

end Launchpad.Shell
