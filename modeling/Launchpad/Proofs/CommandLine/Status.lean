import Launchpad.Machine.Executor
import Launchpad.Proofs.CommandLine.Operations
import Launchpad.Proofs.FileSystem.Walk
import Launchpad.Proofs.Launch.Deployment

/-!
The status of the program. It is what the children of the request came to; a failure for which no
child is the cause ends the program with one. This holds for every executor that tells a child that
ended from one that could not be started, as that of a machine does.
-/

namespace Launchpad

open Launchpad.Action

/-! ### The executor of a machine -/

namespace Machine

theorem Ending.status_lt (ending : Ending) : ending.status < 256 := by
  cases ending <;> simp only [status] <;> omega

/-- Every status that is told of a child is that of an ending. -/
theorem launch_ok {environment : Environment} {session : Session} {descriptors : Descriptors}
    {command : Command} {status : Int}
    (h : (launch environment session descriptors command).1 = .ok status) :
    ∃ ending : Ending, status = ending.status := by
  unfold launch at h
  split at h
  · cases h
  · split at h
    · cases h
    · simp only at h
      split at h
      · cases h
      · cases h
      · cases h
        exact ⟨_, rfl⟩

theorem childStatus_of_openTarget {session : Session} {stream : Stream} {target : OutputTarget}
    {failure : Failure} (h : (openTarget session stream target).1 = .error failure) :
    failure.childStatus = 0 := by
  unfold openTarget at h
  cases target with
  | inherit => cases h
  | null => cases h
  | file p =>
    simp only at h
    split at h
    · cases h
    · cases h
      rfl

theorem executor_tellsEnds (environment : List (String × String)) :
    (executor environment).TellsEnds := by
  constructor
  · intro mode command w status caught h
    simp only [executor] at h
    split at h
    · cases h
    · split at h
      · cases h
      · simp only at h
        split at h
        · rename_i hlaunch
          cases h
          obtain ⟨ending, rfl⟩ := launch_ok hlaunch
          have := ending.status_lt
          omega
        · cases h
  · intro mode command w failure h
    simp only [executor] at h
    split at h
    · rename_i hout
      cases h
      exact childStatus_of_openTarget (congrArg Prod.fst hout)
    · split at h
      · rename_i herr
        cases h
        exact childStatus_of_openTarget (congrArg Prod.fst herr)
      · simp only at h
        split at h
        · cases h
        · cases h
          rfl

end Machine

namespace CommandLine

/-! ### The status of the program -/

/-- The host of a request, once there is a configuration. -/
def Surroundings.hostWith (s : Surroundings) (config : Config) : Host :=
  { config := config, executor := s.executor, arch := s.arch }

/-- What carrying out a request does, up to the point where it answers a status or gives up. -/
def Request.work (request : Request) (s : Surroundings) : Action Int :=
  match request.operation with
  | .component => Operation.component.run (s.hostWith {})
  | operation => do
    let config ← Config.discover request.config? s.settings
    operation.run (s.hostWith config)

theorem Request.work_tells (request : Request) {s : Surroundings} (h : s.executor.TellsEnds) :
    (request.work s).Tells 0 fun answer total => total = answer := by
  have hoperate : ∀ config operation,
      (Operation.run (s.hostWith config) operation).Tells 0 fun answer total => total = answer := by
    intro config operation
    have hhost : (s.hostWith config).executor.TellsEnds := h
    exact operation.run_tells hhost
  unfold work
  split
  · exact hoperate {} .component
  · exact .past (Config.discover_keeps ..) fun config => hoperate config _

theorem failureStatus_eq (failure : Failure) :
    failureStatus failure = if failure.childStatus = 0 then 1 else failure.childStatus := by
  cases failure with
  | child command status =>
    by_cases hstatus : status = 0
    · simp [failureStatus, Failure.childStatus, hstatus]
    · simp [failureStatus, Failure.childStatus, hstatus]
  | _ => rfl

/-- The end of a request, where each failure is shown as a chain of texts. -/
def conclude (chain : Failure → List String) : Except Failure Int × World → Int × World
  | (.ok status, w) => (status, w)
  | (.error failure, w) => giveUp (chain failure) (failureStatus failure) w

/-- A request ends as its work does. How a failure is shown depends on whether there already was a
configuration; the status does not. -/
theorem Request.run_eq (request : Request) (s : Surroundings) (w : World) :
    ∃ chain, request.run s w = conclude chain ((request.work s).perform w) := by
  have hconclude : ∀ outcome : Except Failure Int × World,
      (match outcome with
        | (.ok status, w) => (status, w)
        | (.error failure, w) => giveUp failure.chain (failureStatus failure) w) =
      conclude Failure.chain outcome := by
    rintro ⟨outcome, w⟩
    cases outcome <;> rfl
  unfold run work
  cases hoperation : request.operation with
  | component => exact ⟨_, hconclude ((Operation.component.run (s.hostWith {})).perform w)⟩
  | _ =>
    simp only [perform_bind]
    rcases (Config.discover request.config? s.settings).perform w with ⟨outcome, found⟩
    cases outcome with
    | ok config => exact ⟨_, hconclude ((Operation.run (s.hostWith config) _).perform found)⟩
    | error failure => exact ⟨fun failure => loadingText :: failure.chain, rfl⟩

/-- Of a status, what leaves the program is a byte. -/
theorem Request.status_outcome (request : Request) (s : Surroundings) (files : FileSystem) :
    (request.outcome s files).status = ((request.run s { files := files }).1 % 256).toNat := rfl

theorem toNat_emod_of_byte {status : Int} (h : 0 ≤ status ∧ status < 256) :
    ((status % 256).toNat : Int) = status := by
  omega

/-- A request ends with what its children came to, except that a failure never ends with zero. -/
theorem Request.outcome_cameTo (request : Request) {s : Surroundings} (files : FileSystem)
    (h : s.executor.TellsEnds) :
    ∃ total, CameTo (request.run s { files := files }).2.journal total ∧
      (((∃ answer, ((request.work s).perform { files := files }).1 = .ok answer) ∧
          ((request.outcome s files).status : Int) = total) ∨
        ((∃ failure, ((request.work s).perform { files := files }).1 = .error failure) ∧
          ((request.outcome s files).status : Int) = if total = 0 then 1 else total)) := by
  have htells := request.work_tells h
  have hstart : CameTo ({ files := files } : World).journal 0 := .start
  obtain ⟨chain, hrun⟩ := request.run_eq s { files := files }
  rcases hwork : (request.work s).perform { files := files } with ⟨outcome, w'⟩
  rw [hwork] at hrun
  cases outcome with
  | ok answer =>
    obtain ⟨total, htotal, rfl⟩ := htells.ok hstart hwork
    rw [request.status_outcome, hrun]
    exact ⟨total, htotal, .inl ⟨⟨total, rfl⟩, toNat_emod_of_byte htotal.byte⟩⟩
  | error failure =>
    have htotal := htells.error hstart hwork
    have hbyte := htotal.byte
    rw [request.status_outcome, hrun]
    refine ⟨failure.childStatus, htotal.aside rfl, .inr ⟨⟨failure, rfl⟩, ?_⟩⟩
    change (((failureStatus failure) % 256).toNat : Int) = _
    rw [failureStatus_eq]
    exact toNat_emod_of_byte (by split <;> omega)

end CommandLine

namespace Deployment

variable {host : Host}

/-- A deployment from another branch than the primary one is passed over. -/
theorem perform_run_of_other_branch (host : Host) {w : World} {output : String} (args : List String)
    (hquery : (host.executor.respond .capture (branchQuery host) w).outcome = .ok (0, output))
    (hother : Text.trim output ≠ host.config.suite.primaryBranch) :
    ∃ w', (run host args).perform w =
      (.ok (.skipped (Text.trim output) host.config.suite.primaryBranch), w') := by
  have hreply := perform_activeBranch host w
  rw [perform_call, show question host = branchQuery host from rfl, hquery] at hreply
  exact ⟨_, perform_run_elsewhere hreply hother⟩

end Deployment

namespace CommandLine

/-- A request to deploy from another branch than the primary one ends with zero. -/
theorem Request.status_of_other_branch (request : Request) {s : Surroundings} {files : FileSystem}
    {args : List String} {config : Config} {found : World} {output : String}
    (hoperation : request.operation = .deploy args)
    (hfound : (Config.discover request.config? s.settings).perform { files := files } =
      (.ok config, found))
    (hquery : (s.executor.respond .capture (Deployment.branchQuery (s.hostWith config))
      found).outcome = .ok (0, output))
    (hother : Text.trim output ≠ config.suite.primaryBranch) :
    (request.outcome s files).status = 0 := by
  obtain ⟨w', hskipped⟩ :=
    Deployment.perform_run_of_other_branch (s.hostWith config) args hquery hother
  have hwork : (request.work s).perform { files := files } = (.ok 0, w') := by
    unfold work
    simp only [hoperation, perform_bind, hfound, Operation.run, hskipped]
    rfl
  obtain ⟨chain, hrun⟩ := request.run_eq s { files := files }
  rw [request.status_outcome, hrun, hwork]
  rfl

/-- Whatever the children of a request do, the status of the program tells how they ended. It is
zero exactly if the request was carried out and every child ended with zero. The first child that
ends with another status is the last one, and the program ends with its status. A failure with no
such child behind it ends the program with one. A deployment that is passed over, since another
branch is active, is no failure. -/
theorem status_tells_children (request : Request) (s : Surroundings) (files : FileSystem)
    (h : s.executor.TellsEnds) :
    let work := ((request.work s).perform { files := files }).1
    let journal := (request.run s { files := files }).2.journal
    let status := (request.outcome s files).status
    (status = 0 ↔ (∃ answer, work = .ok answer) ∧ ∀ c, Event.ended c ∈ journal → c = 0) ∧
    (∀ before c after, journal = before ++ .ended c :: after → c ≠ 0 →
      (status : Int) = c ∧ ∀ mode command, Event.called mode command ∉ after) ∧
    ((∃ failure, work = .error failure) → (∀ c, Event.ended c ∈ journal → c = 0) → status = 1) ∧
    (∀ args config found output, request.operation = .deploy args →
      (Config.discover request.config? s.settings).perform { files := files } =
        (.ok config, found) →
      (s.executor.respond .capture (Deployment.branchQuery (s.hostWith config)) found).outcome =
        .ok (0, output) →
      Text.trim output ≠ config.suite.primaryBranch → status = 0) := by
  intro work journal status
  obtain ⟨total, htotal, hend⟩ : ∃ total, CameTo journal total ∧
      (((∃ answer, work = .ok answer) ∧ (status : Int) = total) ∨
        ((∃ failure, work = .error failure) ∧ (status : Int) = if total = 0 then 1 else total)) :=
    request.outcome_cameTo files h
  have hzero : total = 0 ↔ ∀ c, Event.ended c ∈ journal → c = 0 := htotal.eq_zero_iff
  refine ⟨?_, ?_, ?_, ?_⟩
  · rw [← hzero]
    rcases hend with ⟨hanswer, hstatus⟩ | ⟨⟨failure, hfailure⟩, hstatus⟩
    · have hiff : status = 0 ↔ total = 0 := by omega
      simp [hiff, hanswer]
    · have hnever : status ≠ 0 := by
        rintro hstatus'
        split at hstatus <;> omega
      simp [hnever, hfailure]
  · intro before c after hsplit hc
    obtain ⟨rfl, hnone⟩ := htotal.of_ended hsplit hc
    rcases hend with ⟨-, hstatus⟩ | ⟨-, hstatus⟩
    · exact ⟨hstatus, hnone⟩
    · rw [if_neg hc] at hstatus
      exact ⟨hstatus, hnone⟩
  · rintro ⟨failure, hfailure⟩ hall
    rcases hend with ⟨⟨answer, hanswer⟩, -⟩ | ⟨-, hstatus⟩
    · rw [hfailure] at hanswer
      cases hanswer
    · rw [if_pos (hzero.mpr hall)] at hstatus
      exact Int.ofNat.inj hstatus
  · intro args config found output hoperation hfound hquery hother
    exact request.status_of_other_branch hoperation hfound hquery hother

/-- An executor with which the primary branch is active, and everything else ends with seven. -/
def deployer : Executor where
  respond mode _ w :=
    match mode with
    | .capture => { outcome := .ok (0, "master\n"), files := w.files }
    | .run => { outcome := .ok (7, ""), files := w.files }

theorem deployer_tellsEnds : deployer.TellsEnds where
  ended {mode _ _ _ _} h := by
    cases mode <;> cases h <;> decide
  failed {mode _ _ _} h := by cases mode <;> cases h

/-- A deployment ends with the status of the command that deploys. -/
theorem deployment_ends_with_its_status :
    let s : Surroundings :=
      { executor := deployer, arch := .standard, settings := .ofText "settings", filter? := none }
    let request : Request := ⟨none, false, .deploy ["--all"]⟩
    s.executor.TellsEnds ∧ (request.outcome s default).status = 7 := by
  intro s request
  obtain ⟨-, hended, -, -⟩ := status_tells_children request s default deployer_tellsEnds
  have hfound : (Config.discover request.config? s.settings).perform { files := default } =
      (.ok {}, World.record { files := default }
        (.logged ⟨.debug, "No config file found, using defaults", []⟩)) := by
    have hmissing :=
      FileSystem.pathExists_of_entries_eq_nil (rfl : (default : FileSystem).entries = [])
    unfold Config.discover
    simp only [perform_bind, perform_files, Config.candidate?, request, hmissing,
      Bool.false_eq_true, if_false, perform_log, perform_pure]
  obtain ⟨chain, hrun⟩ := request.run_eq s { files := default }
  have hseven : (request.run s { files := default }).2.journal[5]? = some (.ended 7) := by
    rw [hrun]
    unfold Request.work
    simp only [request, perform_bind]
    rw [hfound]
    rfl
  obtain ⟨before, after, hjournal⟩ := List.append_of_mem (List.mem_of_getElem? hseven)
  exact ⟨deployer_tellsEnds, Int.ofNat.inj (hended before 7 after hjournal (by decide)).1⟩

end CommandLine

end Launchpad
