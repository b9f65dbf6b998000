import Launchpad.Gate.Report
import Launchpad.Proofs.Actions
import Mathlib.Data.List.Basic

/-!
What a run of the gate does. The selected tasks do their work one after the other, each in the world
that the one before it left, up to the first that fails; between two of them there are only entries
of the log. The main statement says what a run that succeeds, a run that fails and a rehearsal each
did, and that the reports of the first and the last name the same tasks.
-/

namespace Launchpad.Gate

open Launchpad.Action

variable {host : Host} {filter : TagFilter} {tasks : List Task} {w w' : World}

/-! ### One task -/

/-- The entry that a task makes in the log when it begins. -/
def begins (task : Task) : Event :=
  .logged ⟨.info, "Running gate task", [taskField task]⟩

def succeeds (task : Task) (elapsed : Duration) : Event :=
  .logged ⟨.info, "Gate task passed", [taskField task, ("elapsed", .duration elapsed)]⟩

def fails (task : Task) (failure : Failure) : Event :=
  .logged ⟨.error, "Gate task failed: " ++ failure.message, [taskField task]⟩

/-- The entry for a task that a rehearsal names. -/
def isNamed (task : Task) : Event :=
  .logged ⟨.info, "Selected", [taskField task]⟩

/-- The time that lies between two worlds. -/
def elapsed (before after : World) : Duration :=
  ⟨(after.files.now.nanoseconds - before.files.now.nanoseconds).toNat⟩

/-- A task does its work once, in the world that it finds, and its failure is the failure of the
run. -/
theorem perform_runTask (host : Host) (task : Task) (w : World) :
    (runTask host task).perform w =
      match (task.run host).perform (w.record (begins task)) with
      | (.ok _, worked) =>
        (.ok (elapsed w worked), worked.record (succeeds task (elapsed w worked)))
      | (.error failure, failed) => (.error failure, failed.record (fails task failure)) := by
  rcases hwork : (task.run host).perform (w.record (begins task)) with ⟨outcome, worked⟩
  unfold begins at hwork
  simp only [runTask, perform_bind, perform_log, perform_files, perform_tryCatch, hwork]
  cases outcome with
  | ok status => rfl
  | error failure => rfl

theorem runTask_ok {task : Task} {time : Duration} :
    (runTask host task).perform w = (.ok time, w') ↔
      ∃ status worked, (task.run host).perform (w.record (begins task)) = (.ok status, worked) ∧
        time = elapsed w worked ∧ w' = worked.record (succeeds task time) := by
  rw [perform_runTask]
  rcases (task.run host).perform (w.record (begins task)) with ⟨outcome, worked⟩
  cases outcome with
  | ok status =>
    constructor
    · intro h
      cases h
      exact ⟨status, worked, rfl, rfl, rfl⟩
    · rintro ⟨_, _, heq, rfl, rfl⟩
      cases heq
      rfl
  | error failure => simp

theorem runTask_error {task : Task} {failure : Failure} :
    (runTask host task).perform w = (.error failure, w') ↔
      ∃ failed, (task.run host).perform (w.record (begins task)) = (.error failure, failed) ∧
        w' = failed.record (fails task failure) := by
  rw [perform_runTask]
  rcases (task.run host).perform (w.record (begins task)) with ⟨outcome, failed⟩
  cases outcome with
  | ok status => simp
  | error cause =>
    constructor
    · intro h
      cases h
      exact ⟨failed, rfl, rfl⟩
    · rintro ⟨_, heq, rfl⟩
      cases heq
      rfl

/-! ### Tasks in a row -/

/-- Tasks do their work one after the other, each in the world that the one before it left, and all
of them succeed. With every task comes the time that it took. -/
inductive Passes (host : Host) : List Task → List Duration → World → World → Prop
  | nil (w : World) : Passes host [] [] w w
  | cons {task : Task} {tasks : List Task} {times : List Duration} {w worked w' : World}
      {status : Int}
      (hwork : (task.run host).perform (w.record (begins task)) = (.ok status, worked))
      (hrest : Passes host tasks times (worked.record (succeeds task (elapsed w worked))) w') :
      Passes host (task :: tasks) (elapsed w worked :: times) w w'

theorem passes_nil {times : List Duration} :
    Passes host [] times w w' ↔ times = [] ∧ w' = w := by
  constructor
  · intro h
    cases h
    exact ⟨rfl, rfl⟩
  · rintro ⟨rfl, rfl⟩
    exact .nil _

theorem passes_cons {task : Task} {times : List Duration} :
    Passes host (task :: tasks) times w w' ↔
      ∃ time more between, times = time :: more ∧
        (runTask host task).perform w = (.ok time, between) ∧ Passes host tasks more between w' := by
  constructor
  · intro h
    cases h with
    | cons hwork hrest => exact ⟨_, _, _, rfl, runTask_ok.mpr ⟨_, _, hwork, rfl, rfl⟩, hrest⟩
  · rintro ⟨time, more, between, rfl, hwork, hrest⟩
    obtain ⟨status, worked, hdone, rfl, rfl⟩ := runTask_ok.mp hwork
    exact .cons hdone hrest

/-- A report names the tasks of a list that a filter selects, and those that it passes over, both in
the order of the list. -/
structure Report.Names (report : Report) (filter : TagFilter) (tasks : List Task) : Prop where
  executed : report.executed.map Prod.fst = (tasks.filter filter.selects).map Task.name
  skipped : report.skipped = (tasks.filter fun task => !filter.selects task).map Task.name

theorem names_nil {report : Report} : report.Names filter [] ↔ report = ⟨[], []⟩ := by
  obtain ⟨executed, skipped⟩ := report
  constructor
  · rintro ⟨hexecuted, hskipped⟩
    obtain rfl : executed = [] := by simpa using hexecuted
    obtain rfl : skipped = [] := by simpa using hskipped
    rfl
  · intro h
    cases h
    exact ⟨rfl, rfl⟩

theorem names_cons_of_skipped {report : Report} {task : Task}
    (hskipped : filter.selects task = false) :
    report.Names filter (task :: tasks) ↔
      ∃ inner : Report, inner.Names filter tasks ∧
        report = { inner with skipped := task.name :: inner.skipped } := by
  constructor
  · obtain ⟨executed, skipped⟩ := report
    rintro ⟨hexecuted, hnames⟩
    simp only [List.filter_cons, hskipped, Bool.not_false, if_true, Bool.false_eq_true, if_false,
      List.map_cons] at hexecuted hnames
    exact ⟨⟨executed, _⟩, ⟨hexecuted, rfl⟩, by rw [hnames]⟩
  · rintro ⟨inner, h, rfl⟩
    exact ⟨by simpa [hskipped] using h.executed, by simpa [hskipped] using h.skipped⟩

theorem names_cons_of_selected {report : Report} {task : Task}
    (hselected : filter.selects task = true) :
    report.Names filter (task :: tasks) ↔
      ∃ (inner : Report) (time : Duration), inner.Names filter tasks ∧
        report = { inner with executed := (task.name, time) :: inner.executed } := by
  constructor
  · obtain ⟨executed, skipped⟩ := report
    rintro ⟨hexecuted, hnames⟩
    simp only [List.filter_cons, hselected, Bool.not_true, if_true, Bool.false_eq_true, if_false,
      List.map_cons] at hexecuted hnames
    obtain ⟨⟨name, time⟩, more, rfl, rfl, hmore⟩ := List.map_eq_cons_iff.mp hexecuted
    exact ⟨⟨more, skipped⟩, time, ⟨hmore, hnames⟩, rfl⟩
  · rintro ⟨inner, time, h, rfl⟩
    exact ⟨by simpa [hselected] using h.executed, by simpa [hselected] using h.skipped⟩

theorem run_selected (host : Host) (rehearsal : Bool) {task : Task} (rest : List Task)
    (hselected : filter.selects task = true) :
    run host filter rehearsal (task :: rest) =
      ((if rehearsal then announce task else runTask host task) >>= fun elapsed =>
        run host filter rehearsal rest >>= fun report =>
          pure { report with executed := (task.name, elapsed) :: report.executed }) := by
  rw [run, if_pos hselected]
  cases rehearsal <;> rfl

theorem run_skipped (host : Host) (rehearsal : Bool) {task : Task} (rest : List Task)
    (hskipped : filter.selects task = false) :
    run host filter rehearsal (task :: rest) =
      (run host filter rehearsal rest >>= fun report =>
        pure { report with skipped := task.name :: report.skipped }) := by
  rw [run, if_neg (by simp [hskipped])]

/-- A run succeeds when all selected tasks pass, and reports on them. -/
theorem run_ok_iff {report : Report} :
    (run host filter false tasks).perform w = (.ok report, w') ↔
      report.Names filter tasks ∧
        Passes host (tasks.filter filter.selects) (report.executed.map Prod.snd) w w' := by
  induction tasks generalizing w report with
  | nil =>
    rw [names_nil, List.filter_nil, passes_nil]
    constructor
    · intro h
      cases h
      exact ⟨rfl, rfl, rfl⟩
    · rintro ⟨rfl, -, rfl⟩
      rfl
  | cons task rest ih =>
    cases hselects : filter.selects task with
    | false =>
      rw [run_skipped host false rest hselects, perform_bind_ok, names_cons_of_skipped hselects,
        List.filter_cons_of_neg (by simp [hselects])]
      constructor
      · rintro ⟨inner, between, hinner, h⟩
        cases h
        obtain ⟨hnames, hpasses⟩ := ih.mp hinner
        exact ⟨⟨inner, hnames, rfl⟩, hpasses⟩
      · rintro ⟨⟨inner, hnames, rfl⟩, hpasses⟩
        exact ⟨inner, w', ih.mpr ⟨hnames, hpasses⟩, rfl⟩
    | true =>
      rw [run_selected host false rest hselects, names_cons_of_selected hselects,
        List.filter_cons_of_pos hselects, passes_cons]
      simp only [Bool.false_eq_true, if_false, perform_bind_ok]
      constructor
      · rintro ⟨time, between, hwork, inner, between', hinner, h⟩
        cases h
        obtain ⟨hnames, hpasses⟩ := ih.mp hinner
        exact ⟨⟨inner, time, hnames, rfl⟩, time, _, between, rfl, hwork, hpasses⟩
      · rintro ⟨⟨inner, time, hnames, rfl⟩, time', more, between, htimes, hwork, hpasses⟩
        obtain ⟨rfl, rfl⟩ := List.cons.inj htimes
        exact ⟨time, between, hwork, inner, w', ih.mpr ⟨hnames, hpasses⟩, rfl⟩

/-- Where a list that is not empty is split at one of its elements, it is split at the first, or
behind it. -/
theorem exists_split_cons {first : Task} {rest : List Task}
    {holds : List Task → Task → List Task → Prop} :
    (∃ before task after, first :: rest = before ++ task :: after ∧ holds before task after) ↔
      holds [] first rest ∨
        ∃ before task after, rest = before ++ task :: after ∧ holds (first :: before) task after := by
  constructor
  · rintro ⟨before, task, after, heq, h⟩
    cases before with
    | nil =>
      obtain ⟨rfl, rfl⟩ := List.cons.inj heq
      exact .inl h
    | cons other before =>
      obtain ⟨rfl, rfl⟩ := List.cons.inj heq
      exact .inr ⟨before, task, after, rfl, h⟩
  · rintro (h | ⟨before, task, after, rfl, h⟩)
    · exact ⟨[], first, rest, rfl, h⟩
    · exact ⟨first :: before, task, after, rfl, h⟩

/-- A run fails when a selected task does, after those before it have passed. -/
theorem run_error_iff {failure : Failure} :
    (run host filter false tasks).perform w = (.error failure, w') ↔
      ∃ before task after, tasks = before ++ task :: after ∧ filter.selects task = true ∧
        ∃ times between, Passes host (before.filter filter.selects) times w between ∧
          (runTask host task).perform between = (.error failure, w') := by
  induction tasks generalizing w with
  | nil =>
    constructor
    · intro h
      cases h
    · rintro ⟨before, task, after, heq, -⟩
      simp at heq
  | cons first rest ih =>
    rw [exists_split_cons]
    cases hselects : filter.selects first with
    | false =>
      rw [run_skipped host false rest hselects, perform_bind_error]
      simp [hselects, ih]
    | true =>
      rw [run_selected host false rest hselects]
      simp only [Bool.false_eq_true, if_false, perform_bind_error, perform_pure, Prod.mk.injEq,
        reduceCtorEq, false_and, and_false, exists_false, or_false, ih, hselects, List.filter_cons,
        if_true, List.filter_nil, passes_nil, passes_cons]
      refine or_congr (by simp) ⟨?_, ?_⟩
      · rintro ⟨time, worked, hwork, before, task, after, rfl, hselected, times, between, hpasses,
          hfail⟩
        exact ⟨before, task, after, rfl, hselected, _, between,
          ⟨time, times, worked, rfl, hwork, hpasses⟩, hfail⟩
      · rintro ⟨before, task, after, rfl, hselected, _, between,
          ⟨time, times, worked, rfl, hwork, hpasses⟩, hfail⟩
        exact ⟨time, worked, hwork, before, task, after, rfl, hselected, times, between, hpasses,
          hfail⟩

/-- A rehearsal names the selected tasks in the log and does nothing else. -/
theorem run_rehearsal (host : Host) (filter : TagFilter) (tasks : List Task) (w : World) :
    ∃ report, report.Names filter tasks ∧
      (run host filter true tasks).perform w =
        (.ok report,
          { w with journal := w.journal ++ (tasks.filter filter.selects).map isNamed }) := by
  induction tasks generalizing w with
  | nil => exact ⟨⟨[], []⟩, ⟨rfl, rfl⟩, by simp [run]⟩
  | cons task rest ih =>
    cases hselects : filter.selects task with
    | false =>
      obtain ⟨report, hnames, hrest⟩ := ih w
      refine ⟨_, (names_cons_of_skipped hselects).mpr ⟨report, hnames, rfl⟩, ?_⟩
      rw [run_skipped host true rest hselects, perform_bind, hrest]
      simp [hselects]
    | true =>
      obtain ⟨report, hnames, hrest⟩ := ih (w.record (isNamed task))
      refine ⟨_, (names_cons_of_selected hselects).mpr ⟨report, ⟨0⟩, hnames, rfl⟩, ?_⟩
      have hnamed : (announce task).perform w = (.ok ⟨0⟩, w.record (isNamed task)) := rfl
      rw [run_selected host true rest hselects, if_pos rfl, perform_bind, hnamed]
      simp only [perform_bind, hrest]
      simp [hselects, World.record]

/-- A run of the gate executes the tasks that the filter selects, once each and in their order, up
to the first that fails, whose failure is its own, and behind which nothing is done. If none fails,
it reports on all of them. A rehearsal reports the same tasks as any run that succeeds, and fails
never; it only writes to the log. -/
theorem run_executes_selected (host : Host) (filter : TagFilter) (tasks : List Task) (w : World) :
    (∀ report w', (run host filter false tasks).perform w = (.ok report, w') ↔
      report.Names filter tasks ∧
        Passes host (tasks.filter filter.selects) (report.executed.map Prod.snd) w w') ∧
    (∀ failure w', (run host filter false tasks).perform w = (.error failure, w') ↔
      ∃ before task after times between failed, tasks = before ++ task :: after ∧
        filter.selects task = true ∧
        Passes host (before.filter filter.selects) times w between ∧
        (task.run host).perform (between.record (begins task)) = (.error failure, failed) ∧
        w' = failed.record (fails task failure)) ∧
    ∃ report w', (run host filter true tasks).perform w = (.ok report, w') ∧
      report.Names filter tasks ∧ w'.files = w.files ∧
      (∃ entries : List LogEntry, w'.journal = w.journal ++ entries.map .logged) ∧
      ∀ other start real stop, (run other filter false tasks).perform start = (.ok real, stop) →
        real.executed.map Prod.fst = report.executed.map Prod.fst ∧
          real.skipped = report.skipped := by
  refine ⟨fun report w' => run_ok_iff, fun failure w' => ?_, ?_⟩
  · simp only [run_error_iff, runTask_error, exists_and_left]
  obtain ⟨report, hnames, hrun⟩ := run_rehearsal host filter tasks w
  refine ⟨report, _, hrun, hnames, rfl, ?_, ?_⟩
  · exact ⟨(tasks.filter filter.selects).map fun task => ⟨.info, "Selected", [taskField task]⟩,
      by rw [List.map_map]; rfl⟩
  · intro other start real stop hreal
    obtain ⟨hnames', -⟩ := run_ok_iff.mp hreal
    exact ⟨hnames'.executed.trans hnames.executed.symm, hnames'.skipped.trans hnames.skipped.symm⟩

/-- Of four tasks the first is selected and passes, the second is not selected, and the third ends
the run with the status of its child. -/
theorem run_stops_at_failing_task :
    let host : Host :=
      { config := {}
        executor := ⟨fun _ command w =>
          ⟨.ok (if "bad.js" ∈ command.args then 7 else 0, ""), w.files, []⟩⟩
        arch := .standard }
    let tasks : List Task :=
      [⟨"A", ["quick"], .script []⟩, ⟨"B", ["slow"], .script ["bad.js"]⟩,
        ⟨"C", ["quick"], .script ["bad.js"]⟩, ⟨"D", ["quick"], .script []⟩]
    ∃ launch w',
      (run host ⟨["quick"]⟩ false tasks).perform default = (.error (.child launch 7), w') := by
  intro host tasks
  obtain ⟨-, hfails, -⟩ := run_executes_selected host ⟨["quick"]⟩ tasks default
  exact ⟨_, _, (hfails _ _).mpr
    ⟨tasks.take 2, ⟨"C", ["quick"], .script ["bad.js"]⟩, tasks.drop 3, _, _, _, rfl, rfl,
      .cons rfl (.nil _), rfl, rfl⟩⟩

end Launchpad.Gate
