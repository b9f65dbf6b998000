import Launchpad.Proofs.Copy.Quiet
import Launchpad.Proofs.Suite.Shelf

/-!
The fetch with which the run of a suite begins, and what the log tells of it. It is told by one
entry, once the fetch has succeeded; neither the fetch itself nor the launch behind it makes such an
entry.
-/

namespace Launchpad

open Launchpad.Action

/-- Make sure that the copy of a suite is current. -/
def TestSuite.fetch (suite : TestSuite) (host : Host) : Action Copy.Outcome :=
  ((suite.profile host.arch).copy host.config).ensureCurrent host

theorem TestSuite.fetch_eq (suite : TestSuite) (host : Host) :
    suite.fetch host = (suite.copy host.config).ensureCurrent host := by
  rw [fetch, copy_profile]

/-- The name of a suite and the word for what its fetch did, if an event in the log tells that. -/
def Event.fetched? : Event → Option (String × String)
  | .logged ⟨_, message, [(_, .name suite), (_, .plain word)]⟩ =>
    if message = "Suite fetched" then some (suite, word) else none
  | _ => none

/-- The fetches of suites that a journal tells of, in order of time. -/
def World.fetched (w : World) : List (String × String) :=
  w.journal.filterMap Event.fetched?

theorem fetched_record_of_none {event : Event} (h : event.fetched? = none) (w : World) :
    (w.record event).fetched = w.fetched := by
  simp [World.fetched, World.record, h]

/-! ### What stands around a fetch -/

/-- A launch tells of no fetch. -/
theorem Host.fetched_await (host : Host) (launch : Command) (expectation : Expectation)
    (w : World) : ((host.await launch expectation).perform w).2.fetched = w.fetched := by
  have hwritten : ∀ output : List (Stream × ByteArray),
      (output.map fun written => .wrote written.1 written.2).filterMap Event.fetched? = [] := by
    intro output
    rw [List.filterMap_map]
    exact List.filterMap_eq_nil_iff.mpr fun _ _ => rfl
  have hcall : ((host.executor.call .run launch).perform (w.record launch.starts)).2.fetched =
      w.fetched := by
    have hcalled : Event.fetched? (.called .run launch) = none := rfl
    have hended : ∀ status, Event.fetched? (.ended status) = none := fun _ => rfl
    have hstarts : Event.fetched? launch.starts = none := rfl
    rw [perform_call, ← fetched_record_of_none hstarts w]
    cases (host.executor.respond .run launch (w.record launch.starts)).outcome with
    | ok answer => simp [World.fetched, -List.filterMap_map, hwritten, hcalled, hended]
    | error failure => simp [World.fetched, -List.filterMap_map, hwritten, hcalled]
  rcases host.await_world launch expectation w with hworld | ⟨status, hworld⟩
  · rw [hworld, hcall]
  · rw [hworld, ← hcall]
    exact fetched_record_of_none rfl _

/-- A fetch itself does not tell of one. -/
theorem TestSuite.fetched_fetch (suite : TestSuite) (host : Host) (w : World) :
    ((suite.fetch host).perform w).2.fetched = w.fetched := by
  have hquiet := (suite.copy host.config).ensureCurrent_preparesPlainly host
  rw [fetch_eq]
  obtain ⟨entries, hplain, hjournal⟩ := hquiet.exists_entries w
  have hnone : (entries.map Event.logged).filterMap Event.fetched? = [] := by
    rw [List.filterMap_map, List.filterMap_eq_nil_iff]
    rintro ⟨level, message, fields⟩ hentry
    obtain rfl : fields = [] := hplain _ hentry
    rfl
  rw [World.fetched, hjournal, List.filterMap_append, hnone, List.append_nil, World.fetched]

/-- The entry that tells of a fetch. -/
def SuiteProfile.fetched (profile : SuiteProfile) (outcome : Copy.Outcome) : Event :=
  .logged ⟨.debug, "Suite fetched",
    [("suite", .name profile.name), ("outcome", .plain outcome.word)]⟩

/-- The run of a suite begins with its fetch, and tells of it in the log. -/
theorem TestSuite.perform_run (suite : TestSuite) (host : Host) (args : List String)
    (expectation : Expectation) (w : World) :
    (suite.run host args expectation).perform w =
      match (suite.fetch host).perform w with
      | (.error failure, failed) => (.error failure, failed)
      | (.ok outcome, fetched) =>
        (Action.ofExcept .argument ((suite.profile host.arch).command host args) >>=
          fun launch => host.await launch expectation).perform
            (fetched.record ((suite.profile host.arch).fetched outcome)) := by
  unfold run SuiteProfile.run fetch
  rw [perform_bind]
  rcases (((suite.profile host.arch).copy host.config).ensureCurrent host).perform w with
    ⟨outcome, fetched⟩
  cases outcome with
  | error failure => rfl
  | ok outcome =>
    simp only
    rw [perform_bind, perform_log]
    rfl

end Launchpad
