import Launchpad.Gate.Task
import Launchpad.Launch.SmokeTests
import Launchpad.Proofs.Actions

/-!
How often an operation calls its executor. Every operation that launches something prepares one
command first and hands it over in the end. Preparing calls nobody, so a failure on the way there
launches nothing; and once there is a command, the reply to it settles the result.
-/

namespace Launchpad

open Launchpad.Action

/-- The command that an event shows to have been handed to the executor. -/
def Event.call? : Event → Option (CallMode × Command)
  | .called mode command => some (mode, command)
  | _ => none

/-- The commands that were handed to the executor, in order of time. -/
def World.calls (w : World) : List (CallMode × Command) :=
  w.journal.filterMap Event.call?

/-- The entry that a launch makes in the log before it happens. -/
def Command.starts (launch : Command) : Event :=
  .logged ⟨.info, "Running " ++ launch.display, [("cwd", .directory? launch.cwd?)]⟩

/-- The entry for a launch whose status is handed back although it is not zero. -/
def Command.endsOddly (launch : Command) (status : Int) : Event :=
  .logged ⟨.debug, launch.program ++ " exited non-zero", [("status", .number status)]⟩

/-- What the reply to a launch makes of the operation. A status other than zero ends it if success
is expected, and then the failure shows the very command that was launched. -/
inductive Expectation.Settles (expectation : Expectation) (launch : Command) :
    Except Failure (Int × String) → Except Failure Int → Prop where
  | unlaunched (failure : Failure) : Settles expectation launch (.error failure) (.error failure)
  | zero (caught : String) : Settles expectation launch (.ok (0, caught)) (.ok 0)
  | accepted {status : Int} (caught : String) (hstatus : status ≠ 0)
      (h : expectation = .anyStatus) : Settles expectation launch (.ok (status, caught)) (.ok status)
  | refused {status : Int} (caught : String) (hstatus : status ≠ 0)
      (h : expectation = .success) :
      Settles expectation launch (.ok (status, caught)) (.error (.child launch status))

variable {α β : Type} {host : Host} {w : World}

/-! ### Calls -/

theorem calls_record_logged (w : World) (entry : LogEntry) :
    (w.record (.logged entry)).calls = w.calls := by
  simp [World.calls, World.record, Event.call?]

theorem Executor.calls_call (executor : Executor) (mode : CallMode) (command : Command)
    (w : World) :
    ((executor.call mode command).perform w).2.calls = w.calls ++ [(mode, command)] := by
  have hwritten : ∀ output : List (Stream × ByteArray),
      (output.map fun written => Event.wrote written.1 written.2).filterMap Event.call? = [] := by
    intro output
    rw [List.filterMap_map]
    exact List.filterMap_eq_nil_iff.mpr fun _ _ => rfl
  rw [perform_call]
  cases (executor.respond mode command w).outcome with
  | ok answer => simp [World.calls, hwritten, Event.call?]
  | error failure => simp [World.calls, hwritten, Event.call?]

/-- The reply to a call is that of the executor. -/
theorem Executor.perform_call_fst (executor : Executor) (mode : CallMode) (command : Command)
    (w : World) :
    ((executor.call mode command).perform w).1 = (executor.respond mode command w).outcome := by
  rw [perform_call]

/-- A launch that is waited for: it is announced and made, and the reply is held against what is
expected. -/
theorem Host.perform_await (host : Host) (launch : Command) (expectation : Expectation)
    (w : World) :
    (host.await launch expectation).perform w =
      match (host.executor.call .run launch).perform (w.record launch.starts) with
      | (.error failure, w') => (.error failure, w')
      | (.ok (status, _), w') =>
        if status = 0 then (.ok 0, w')
        else match expectation with
          | .success => (.error (.child launch status), w')
          | .anyStatus => (.ok status, w'.record (launch.endsOddly status)) := by
  unfold await
  simp only [perform_bind, perform_log]
  rw [← Command.starts]
  rcases (host.executor.call .run launch).perform (w.record launch.starts) with ⟨outcome, w'⟩
  cases outcome with
  | error failure => rfl
  | ok answer =>
    obtain ⟨status, caught⟩ := answer
    by_cases hstatus : status = 0
    · simp [hstatus]
    · cases expectation with
      | success => simp [hstatus]; rfl
      | anyStatus => simp [hstatus]; rfl

/-- The world that a launch leaves: what the call left, and perhaps an entry in the log. -/
theorem Host.await_world (host : Host) (launch : Command) (expectation : Expectation)
    (w : World) :
    ((host.await launch expectation).perform w).2 =
        ((host.executor.call .run launch).perform (w.record launch.starts)).2 ∨
      ∃ status, ((host.await launch expectation).perform w).2 =
        ((host.executor.call .run launch).perform (w.record launch.starts)).2.record
          (launch.endsOddly status) := by
  rw [perform_await]
  rcases (host.executor.call .run launch).perform (w.record launch.starts) with ⟨outcome, w'⟩
  cases outcome with
  | error failure => exact .inl rfl
  | ok answer =>
    obtain ⟨status, caught⟩ := answer
    by_cases hstatus : status = 0
    · exact .inl (by simp [hstatus])
    · cases expectation with
      | success => exact .inl (by simp [hstatus])
      | anyStatus => exact .inr ⟨status, by simp [hstatus]⟩

theorem Host.calls_await (host : Host) (launch : Command) (expectation : Expectation)
    (w : World) :
    ((host.await launch expectation).perform w).2.calls = w.calls ++ [(.run, launch)] := by
  have hcall := host.executor.calls_call .run launch (w.record launch.starts)
  have hstarts : (w.record launch.starts).calls = w.calls := calls_record_logged w _
  rw [hstarts] at hcall
  rcases host.await_world launch expectation w with hworld | ⟨status, hworld⟩
  · rw [hworld, hcall]
  · rw [hworld, ← hcall]
    exact calls_record_logged _ _

/-- The files are as the executor left them. -/
theorem Host.files_await (host : Host) (launch : Command) (expectation : Expectation) (w : World) :
    ((host.await launch expectation).perform w).2.files =
      (host.executor.respond .run launch (w.record launch.starts)).files := by
  have hcall : ((host.executor.call .run launch).perform (w.record launch.starts)).2.files =
      (host.executor.respond .run launch (w.record launch.starts)).files := by
    rw [perform_call]
  rcases host.await_world launch expectation w with hworld | ⟨status, hworld⟩
  · rw [hworld, hcall]
  · rw [hworld, ← hcall]
    rfl

/-- The reply of the executor settles what comes of a launch. -/
theorem Host.settles_await (host : Host) (launch : Command) (expectation : Expectation)
    (w : World) :
    expectation.Settles launch
      (host.executor.respond .run launch (w.record launch.starts)).outcome
      ((host.await launch expectation).perform w).1 := by
  have hreply := host.executor.perform_call_fst .run launch (w.record launch.starts)
  rw [← hreply, perform_await]
  rcases (host.executor.call .run launch).perform (w.record launch.starts) with ⟨outcome, w'⟩
  cases outcome with
  | error failure => exact .unlaunched failure
  | ok answer =>
    obtain ⟨status, caught⟩ := answer
    by_cases hstatus : status = 0
    · subst hstatus
      exact .zero caught
    · cases expectation with
      | success => simpa [hstatus] using Expectation.Settles.refused caught hstatus rfl
      | anyStatus => simpa [hstatus] using Expectation.Settles.accepted caught hstatus rfl

/-! ### What calls nobody -/

/-- The failures that come up before anything is launched: the arguments, the copy of a suite, or
the smoke tests. -/
def Failure.precedesLaunch : Failure → Bool
  | .argument _ | .noSmokeTests _ | .unknownArtifact _ | .missingArtifact _ _
  | .unextractable _ _ => true
  | .io context _ _ => context ≠ .creatingOutput
  | .child _ _ | .unlaunchable _ _ | .config _ => false

namespace Action

/-- An action that is built of changes to files, entries of some kind in the log, and failures of
some kind. None of these calls an executor. -/
inductive Quiet (logs : LogEntry → Prop) (allowed : Failure → Prop) :
    {α : Type} → Action α → Prop where
  | pure {α : Type} (x : α) : Quiet logs allowed (Pure.pure x : Action α)
  | throw {α : Type} {failure : Failure} (h : allowed failure) :
      Quiet logs allowed (MonadExcept.throw failure : Action α)
  | bind {α β : Type} {a : Action α} {next : α → Action β} (ha : Quiet logs allowed a)
      (hnext : ∀ x, Quiet logs allowed (next x)) : Quiet logs allowed (a >>= next)
  | files : Quiet logs allowed Action.files
  | log {level : Level} {message : String} {fields : List (String × FieldValue)}
      (h : logs ⟨level, message, fields⟩) : Quiet logs allowed (Action.log level message fields)
  | change {step : FileSystem → Except IoError Unit × FileSystem} {asFailure : IoError → Failure}
      (h : ∀ e, allowed (asFailure e)) : Quiet logs allowed (Action.change step asFailure)

namespace Quiet

variable {logs logs' : LogEntry → Prop} {allowed : Failure → Prop} {a : Action α}

theorem mono (h : Quiet logs allowed a) (hlogs : ∀ entry, logs entry → logs' entry) :
    Quiet logs' allowed a := by
  induction h with
  | pure x => exact .pure x
  | throw hallowed => exact .throw hallowed
  | bind _ _ ih ihnext => exact .bind ih ihnext
  | files => exact .files
  | log hentry => exact .log (hlogs _ hentry)
  | change hallowed => exact .change hallowed

theorem ofExcept {ε : Type} {asFailure : ε → Failure} {answer : Except ε α}
    (h : ∀ e, answer = .error e → allowed (asFailure e)) :
    Quiet logs allowed (Action.ofExcept asFailure answer) := by
  cases answer with
  | ok x => exact .pure x
  | error e => exact .throw (h e rfl)

/-- All that such an action leaves in the journal are its entries in the log. -/
theorem exists_entries (h : Quiet logs allowed a) (w : World) :
    ∃ entries : List LogEntry, (∀ entry ∈ entries, logs entry) ∧
      (a.perform w).2.journal = w.journal ++ entries.map .logged := by
  induction h generalizing w with
  | pure | throw | files => exact ⟨[], by simp, (List.append_nil _).symm⟩
  | @bind _ _ a next ha hnext ih ihnext =>
    obtain ⟨first, hfirst, hjournal⟩ := ih w
    rw [perform_bind]
    rcases hperform : a.perform w with ⟨outcome, between⟩
    rw [hperform] at hjournal
    cases outcome with
    | error failure => exact ⟨first, hfirst, hjournal⟩
    | ok x =>
      obtain ⟨more, hmore, hrest⟩ := ihnext x between
      refine ⟨first ++ more, fun entry hentry => ?_, ?_⟩
      · exact (List.mem_append.mp hentry).elim (hfirst entry) (hmore entry)
      · rw [hrest, hjournal, List.map_append, List.append_assoc]
  | @log level message fields hentry =>
    exact ⟨[⟨level, message, fields⟩], by simpa using hentry, rfl⟩
  | change =>
    rw [perform_change]
    exact ⟨[], by simp, (List.append_nil _).symm⟩

theorem calls_perform (h : Quiet logs allowed a) (w : World) :
    (a.perform w).2.calls = w.calls := by
  obtain ⟨entries, -, hjournal⟩ := h.exists_entries w
  have hnone : (entries.map Event.logged).filterMap Event.call? = [] := by
    rw [List.filterMap_map]
    exact List.filterMap_eq_nil_iff.mpr fun _ _ => rfl
  rw [World.calls, hjournal, List.filterMap_append, hnone, List.append_nil, World.calls]

theorem allowed_of_perform (h : Quiet logs allowed a) {w w' : World} {failure : Failure}
    (hfailure : a.perform w = (.error failure, w')) : allowed failure := by
  induction h generalizing w w' with
  | pure | files | log => cases hfailure
  | throw hallowed =>
    cases hfailure
    exact hallowed
  | bind ha hnext ih ihnext =>
    rcases perform_bind_error.mp hfailure with hfailure | ⟨x, between, -, hfailure⟩
    · exact ih hfailure
    · exact ihnext x hfailure
  | change hallowed =>
    rw [perform_change, Prod.mk.injEq] at hfailure
    obtain ⟨e, -, rfl⟩ := Results.mapError_eq_error.mp hfailure.1
    exact hallowed e

end Quiet

end Action

end Launchpad
