import Launchpad.Machine.Shell.Options

/-!
Signals: what a shell provides for them, and how it sends them.
-/

namespace Launchpad.Machine.Shell

/-- The number of a signal that is given by its number or its name. -/
def signal? (least : Nat) (text : Octets) : Option Nat :=
  match natural? text.toList with
  | some n => if n ≤ Signal.greatest then some n else none
  | none =>
    let upper := text.map Char.toUpper
    if least = 0 && upper = "EXIT" then some 0
    else ((List.range (Signal.greatest + 1)).drop 1).find? fun n =>
      (Signal.ofNumber n).name.map Char.toUpper = upper

/-- Let everybody who sends signals know what this shell provides for. -/
def announceTraps : Step Unit := do
  let s ← Step.shell
  match s.numbers.head? with
  | some process =>
    Step.alterSession fun session => { session with
      provisions := (process, s.traps) :: session.provisions.filter (·.1 ≠ process) }
  | none => return ()

/-- The command `trap`: set what is run when signals come, or list it. -/
def setTraps (args : List Octets) : Step Nat := do
  let (_, args) ← flags "" "" args
  match args with
  | [] =>
    let s ← Step.shell
    for (number, action) in s.traps.mergeSort fun a b => a.1 ≤ b.1 do
      let name := if number = 0 then "EXIT" else (Signal.ofNumber number).name
      Step.print 1 ("trap -- " ++ singleQuoted action ++ " " ++ name ++ "\n")
    return 0
  | first :: rest =>
    let (action?, names) : Option Octets × List Octets :=
      if rest = [] then (none, [first])
      else if first = "-" then (none, rest)
      else (some first, rest)
    setEach action? names
where
  /-- Set what is run for one signal after the other. -/
  setEach (action? : Option Octets) : List Octets → Step Nat
    | [] => do
      announceTraps
      return 0
    | name :: rest => do
      match signal? 0 name with
      | some number =>
        Step.alter fun s =>
          let others := s.traps.filter (·.1 ≠ number)
          { s with traps := match action? with
              | some action => (number, action) :: others
              | none => others }
        setEach action? rest
      | none =>
        announceTraps
        Step.print 2 ("trap: " ++ name ++ ": bad trap\n")
        return 1

def signalAbove (process signal : Nat) : Step Unit := do
  let r ← get
  let provided := ((r.session.provisions.lookup process).getD []).lookup signal
  if signal = 0 || signal = 18 then return ()
  else match (if signal = 9 then none else provided) with
    | some "" => return ()
    | some _ =>
      Step.alterSession fun s => { s with waiting := s.waiting ++ [(process, signal)] }
    | none =>
      if (Signal.ofNumber signal).ends then throw (.killed process signal) else return ()

def signalJob (job : Job) (signal : Nat) : Step Unit := do
  let isIgnored := signal ≠ 9 && job.shell.traps.lookup signal = some ""
  if job.status?.isSome || isIgnored || signal = 0 || !(Signal.ofNumber signal).ends then
    return ()
  else
    modify fun r => { r with jobs := r.jobs.map fun own =>
      if own.number = job.number then { own with status? := some (128 + signal), rest := [] }
      else own }

/-- Send a signal to the process with a number; the answer tells whether there is one. -/
def sendTo (process signal : Nat) : Step Bool := do
  let r ← get
  match r.jobs.find? (·.number = process) with
  | some job =>
    signalJob job signal
    return true
  | none =>
    if r.shell.numbers.contains process then
      signalAbove process signal
      return true
    else return false

/-- The number of the process that a text names: by its number, or as a job. -/
def processOf (text : Octets) : Step Nat := do
  let jobs := (← get).jobs
  if text.startsWith "%" then
    let wanted := (text.drop 1).toString
    let found? : Option Job :=
      if wanted = "" || wanted = "%" || wanted = "+" then jobs.getLast?
      else (natural? wanted.toList).bind fun n => if n = 0 then none else jobs[n - 1]?
    match found? with
    | some job => return job.number
    | none => Step.fail ("No such job: " ++ text)
  else
    let digits := if text.startsWith "-" then (text.drop 1).toString else text
    match natural? digits.toList with
    | some n => return n
    | none => Step.fail ("Illegal number: " ++ digits)

def sendToAll (signal : Nat) (status : Nat) : List Octets → Step Nat
  | [] => return status
  | target :: rest => do
    let process ← processOf target
    if ← sendTo process signal then sendToAll signal status rest
    else
      Step.complain ((if process = 1 then Errno.notPermitted else Errno.noProcess).text ++ "\n")
      sendToAll signal 1 rest

/-- What the command `kill` says when it is not understood. -/
def killUsage : Octets :=
  "Usage: kill [-s sigspec | -signum | -sigspec] [pid | job]... or\nkill -l [exitstatus]"

def listSignals : List Octets → Step Nat
  | [] => do
    Step.print 1 ("0\n" ++ String.join (((List.range (Signal.greatest + 1)).drop 1).map fun n =>
      (Signal.ofNumber n).name ++ "\n"))
    return 0
  | text :: _ => do
    match natural? text.toList with
    | none => Step.fail ("Illegal number: " ++ text)
    | some n =>
      let signal := if n > 128 then n - 128 else n
      if 0 < signal && signal ≤ Signal.greatest then
        Step.print 1 ((Signal.ofNumber signal).name ++ "\n")
        return 0
      else Step.fail ("invalid signal number or exit status: " ++ text)

/-- The command `kill`. -/
def kill (args : List Octets) : Step Nat := do
  match args with
  | [] => Step.fail killUsage
  | first :: rest =>
    let direct? := if first.startsWith "-" then signal? 1 (first.drop 1).toString else none
    match direct? with
    | some signal => if rest = [] then Step.fail killUsage else sendToAll signal 0 rest
    | none =>
      let (options, targets) ← if first.startsWith "-" then flags "l" "s" args
        else pure ([], args)
      let named? ← match options.find? (·.1 = 's') with
        | some (_, name) =>
          match signal? 1 name with
          | some signal => pure (some signal)
          | none => Step.fail ("invalid signal number or name: " ++ name)
        | none => pure none
      if options.any (·.1 = 'l') then
        if named?.isSome then Step.fail killUsage else listSignals targets
      else if targets = [] then Step.fail killUsage
      else sendToAll (named?.getD 15) 0 targets

end Launchpad.Machine.Shell
