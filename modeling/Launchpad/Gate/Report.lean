import Launchpad.Gate.Selection

/-!
Reports on the gate. The selected tasks are run one after the other, up to the first that fails; the
report says how long each took and which tasks were passed over. A rehearsal only names the tasks.
-/

namespace Launchpad.Gate

structure Report where
  /-- The tasks that were run, with the time that each took. -/
  executed : List (String × Duration)
  /-- The tasks that were not selected. -/
  skipped : List String
  deriving DecidableEq, Repr, Inhabited

/-- The field of a log entry that names a task. -/
def taskField (task : Task) : String × FieldValue :=
  ("task", .plain task.name)

def runTask (host : Host) (task : Task) : Action Duration := do
  Action.log .info "Running gate task" [taskField task]
  let started := (← Action.files).now
  try
    let _ ← task.run host
  catch failure =>
    Action.log .error ("Gate task failed: " ++ failure.message) [taskField task]
    throw failure
  let ended := (← Action.files).now
  let elapsed : Duration := ⟨(ended.nanoseconds - started.nanoseconds).toNat⟩
  Action.log .info "Gate task passed" [taskField task, ("elapsed", .duration elapsed)]
  return elapsed

/-- Name a task that a real run would run. -/
def announce (task : Task) : Action Duration := do
  Action.log .info "Selected" [taskField task]
  return ⟨0⟩

def run (host : Host) (filter : TagFilter) (rehearsal : Bool) : List Task → Action Report
  | [] => return ⟨[], []⟩
  | task :: rest => do
    if filter.selects task then
      let elapsed ← if rehearsal then announce task else runTask host task
      let report ← run host filter rehearsal rest
      return { report with executed := (task.name, elapsed) :: report.executed }
    else
      let report ← run host filter rehearsal rest
      return { report with skipped := task.name :: report.skipped }

end Launchpad.Gate
