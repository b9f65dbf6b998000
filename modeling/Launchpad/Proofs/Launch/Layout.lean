import Launchpad.Launch.Conformance
import Launchpad.Launch.Shell
import Launchpad.Launch.UnitTests
import Launchpad.Proofs.Arguments.Sizing
import Launchpad.Proofs.Arguments.Walk

/-!
The argument list of each kind of launch, in one line, from what sorting makes of the user's tokens.
A launch is refused only where sorting is.
-/

namespace Launchpad

open Arguments Results

/-- The default sizes that the launch of a shell puts behind its flags. -/
def Shell.addedSizes (arch : Arch) (withSizes : Bool) (vmArgs : List String) : List String :=
  if withSizes then (Sizing.interactive arch).added vmArgs else []

theorem Shell.isVmFlag_of_mem_addedSizes {arch : Arch} {withSizes : Bool} {vmArgs : List String}
    {flag : String} (h : flag ∈ addedSizes arch withSizes vmArgs) : isVmFlag flag = true := by
  unfold addedSizes at h
  split at h
  · exact isVmFlag_of_mem_added h
  · simp at h

theorem Shell.argumentList_of_partition (arch : Arch) {tokens defaults : List String}
    {parts : Partition} (mainClass : String) (withSizes : Bool)
    (h : partition tokens defaults false = .ok parts) :
    argumentList arch tokens mainClass defaults withSizes =
      .ok (parts.vmArgs ++ addedSizes arch withSizes parts.vmArgs ++
        mainClass :: parts.remainder) := by
  simp only [argumentList, h]
  cases withSizes with
  | false => simp [bind, Except.bind, pure, Except.pure, layout, Stage.args, addedSizes]
  | true =>
    simp [bind, Except.bind, pure, Except.pure, layout, Stage.args, addedSizes,
      appendSizing_eq_append]

theorem SuiteProfile.command_of_partition (profile : SuiteProfile) (host : Host)
    {args : List String} {parts : Partition} (h : partition args [] false = .ok parts) :
    profile.command host args = .ok (host.java
      (["-ea", "-esa", "-cp", joinClasspath host.config.testsClasspath] ++
        profile.defaultVmArgs ++ appendSizing parts.vmArgs (profile.sizing host.arch) ++
        profile.mainClass :: parts.remainder)
      (some (profile.workPath host.config))) := by
  simp [SuiteProfile.command, h, bind, Except.bind, pure, Except.pure, layout, Stage.args]

theorem UnitTests.command_of_partition (host : Host) {args : List String} (trailing : List String)
    {parts : Partition} (h : partition args [] false = .ok parts) :
    UnitTests.command host args trailing = .ok (host.java
      (["-ea", "-esa", "-cp", joinClasspath host.config.testsClasspath] ++ parts.vmArgs ++
        host.config.unitTest.mainClass :: (runnerFlags ++ parts.remainder ++ trailing))
      (some host.config.suite.directory)) := by
  simp [UnitTests.command, h, bind, Except.bind, pure, Except.pure, layout, Stage.args]

end Launchpad
