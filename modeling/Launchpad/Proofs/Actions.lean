import Launchpad.Proofs.Results
import Launchpad.World

/-!
What an action does in a world, for each way to build one. Of an action that succeeds, these lemmas
say what every step of it did.
-/

namespace Launchpad.Action

variable {α β : Type}

@[simp]
theorem perform_ofExcept {ε : Type} (asFailure : ε → Failure) (answer : Except ε α) (w : World) :
    (ofExcept asFailure answer).perform w = (answer.mapError asFailure, w) := by
  cases answer with
  | ok a => rfl
  | error e => rfl

@[simp]
theorem perform_pure (x : α) (w : World) : (pure x : Action α).perform w = (.ok x, w) := rfl

@[simp]
theorem perform_files (w : World) : files.perform w = (.ok w.files, w) := rfl

@[simp]
theorem perform_log (level : Level) (message : String) (fields : List (String × FieldValue))
    (w : World) :
    (log level message fields).perform w = (.ok (), w.record (.logged ⟨level, message, fields⟩)) :=
  rfl

theorem perform_tryCatch (a : Action α) (handle : Failure → Action α) (w : World) :
    (tryCatch a handle).perform w =
      match a.perform w with
      | (.ok x, between) => (.ok x, between)
      | (.error failure, between) => (handle failure).perform between := by
  change StateT.run (ExceptT.tryCatch a handle) w = _
  rw [ExceptT.tryCatch, ExceptT.mk, StateT.run_bind]
  unfold perform ExceptT.run
  cases h : StateT.run a w with
  | mk outcome between => cases outcome <;> rfl

theorem perform_bind (a : Action α) (next : α → Action β) (w : World) :
    (a >>= next).perform w =
      match a.perform w with
      | (.ok x, between) => (next x).perform between
      | (.error e, between) => (.error e, between) := by
  have hrun : (a >>= next).perform w =
      ExceptT.bindCont next (a.perform w).1 (a.perform w).2 := rfl
  rw [hrun]
  rcases a.perform w with ⟨outcome, between⟩
  cases outcome with
  | ok x => rfl
  | error e => rfl

/-- Two actions in a row succeed when the first does and the second does where the first ended. -/
theorem perform_bind_ok {a : Action α} {next : α → Action β} {w w' : World} {b : β} :
    (a >>= next).perform w = (.ok b, w') ↔
      ∃ x between, a.perform w = (.ok x, between) ∧ (next x).perform between = (.ok b, w') := by
  rw [perform_bind]
  rcases h : a.perform w with ⟨outcome, between⟩
  cases outcome with
  | ok x =>
    constructor
    · intro hnext
      exact ⟨x, between, rfl, hnext⟩
    · rintro ⟨_, _, heq, hnext⟩
      cases heq
      exact hnext
  | error e => simp

/-- Two actions in a row fail where the first does, or where the second does behind it. -/
theorem perform_bind_error {a : Action α} {next : α → Action β} {w w' : World}
    {failure : Failure} :
    (a >>= next).perform w = (.error failure, w') ↔
      a.perform w = (.error failure, w') ∨
        ∃ x between, a.perform w = (.ok x, between) ∧
          (next x).perform between = (.error failure, w') := by
  rw [perform_bind]
  rcases h : a.perform w with ⟨outcome, between⟩
  cases outcome with
  | ok x =>
    constructor
    · intro hnext
      exact .inr ⟨x, between, rfl, hnext⟩
    · rintro (heq | ⟨_, _, heq, hnext⟩)
      · cases heq
      · cases heq
        exact hnext
  | error e => simp

theorem perform_change (step : FileSystem → Except IoError Unit × FileSystem)
    (asFailure : IoError → Failure) (w : World) :
    (change step asFailure).perform w =
      ((step w.files).1.mapError asFailure, { w with files := (step w.files).2 }) := by
  have hrun : (change step asFailure).perform w =
      (change (fun _ => step w.files) asFailure).perform w := rfl
  rw [hrun]
  rcases step w.files with ⟨outcome, files⟩
  cases outcome with
  | ok u => rfl
  | error e => rfl

theorem perform_change_ok {step : FileSystem → Except IoError Unit × FileSystem}
    (asFailure : IoError → Failure) {w : World} {after : FileSystem}
    (h : step w.files = (.ok (), after)) :
    (change step asFailure).perform w = (.ok (), { w with files := after }) := by
  rw [perform_change, h]
  rfl

/-- A change that succeeds does to the files what it says. -/
theorem files_of_change_ok {step : FileSystem → Except IoError Unit × FileSystem}
    {asFailure : IoError → Failure} {w w' : World}
    (h : (change step asFailure).perform w = (.ok (), w')) :
    step w.files = (.ok (), w'.files) := by
  rw [perform_change, Prod.mk.injEq] at h
  obtain ⟨houtcome, rfl⟩ := h
  rcases hstep : step w.files with ⟨outcome, files⟩
  rw [hstep] at houtcome
  cases outcome with
  | ok u => rfl
  | error e => cases houtcome

/-- A child that is started leaves in the journal that it was, what it printed, and the status with
which it ended. -/
theorem perform_call (executor : Executor) (mode : CallMode) (command : Command) (w : World) :
    (executor.call mode command).perform w =
      ((executor.respond mode command w).outcome,
        { files := (executor.respond mode command w).files
          journal := w.journal ++ [.called mode command] ++
            (executor.respond mode command w).output.map
              (fun written => Event.wrote written.1 written.2) ++
            match (executor.respond mode command w).outcome with
            | .ok (status, _) => [.ended status]
            | .error _ => [] }) := by
  have hrun : (executor.call mode command).perform w =
      (ofExcept id (executor.respond mode command w).outcome).perform
        { files := (executor.respond mode command w).files
          journal := w.journal ++ .called mode command ::
            (executor.respond mode command w).output.map
              (fun written => Event.wrote written.1 written.2) ++
            match (executor.respond mode command w).outcome with
            | .ok (status, _) => [.ended status]
            | .error _ => [] } := rfl
  rw [hrun, perform_ofExcept]
  simp

end Launchpad.Action
