import Launchpad.Machine.Programs
import Launchpad.Machine.Shell.Directory
import Launchpad.Machine.Shell.Names
import Launchpad.Machine.Shell.Parameters
import Launchpad.Machine.Shell.Redirection
import Launchpad.Machine.Shell.Signals
import Launchpad.Machine.Shell.Words

/-!
Running programs and scripts. A pipeline is run from left to right: each part runs to its end, and
what it printed is what the next part reads. A process in the background runs when somebody waits
for it, or when the clock of the shell has passed it. Everything is bounded by a number of steps,
which no script of a sensible size uses up.
-/

namespace Launchpad.Machine.Shell

open Script

/-- So many steps that no sensible script uses them up. -/
def stepLimit : Nat := 100000

def startingTime : Nat := 1000000

/-- The time that starting a process in the background takes. -/
def forkingTime : Nat := 500000

def importVariables (environment : Environment) (numbers : List Nat) (directory : Octets) :
    List (String × Variable) :=
  let inherited := (environment.filter fun (name, _) =>
    isName name.toList && !(["PWD", "IFS", "OPTIND", "PPID"].contains name)).map fun (name, value) =>
      (name, ({ value? := some value, exported := true } : Variable))
  let plain (name value : String) : List (String × Variable) :=
    if inherited.any (·.1 = name) then [] else [(name, { value? := some value })]
  plain "PATH" "/usr/local/sbin:/usr/local/bin:/usr/sbin:/usr/bin:/sbin:/bin" ++
    plain "PS1" "$ " ++ plain "PS2" "> " ++ plain "PS4" "+ " ++ plain "IFS" " \t\n" ++
    plain "OPTIND" "1" ++ plain "PPID" (toString ((numbers[1]?).getD 1)) ++ inherited ++
    [("PWD", { value? := some directory, exported := true })]

/-- The directory that a shell starts in, as the environment spells it if that is right. -/
def startDirectory (environment : Environment) (files : FileSystem) : Octets :=
  let physical := physicalDirectory files
  match environment.lookup "PWD" with
  | some path =>
    match files.status (Octets.path path) with
    | .ok (l, _) => if path.startsWith "/" && l = files.here then path else physical
    | .error _ => physical
  | none => physical

/-- What a step of a process comes to when the process ends with it. -/
def endingOf (numbers : List Nat) : Except Interruption Nat → Ending
  | .ok status => .exited (status % 256)
  | .error (.exiting status) => .exited (status % 256)
  | .error (.failing status) => .exited (status % 256)
  | .error (.returning status) => .exited (status % 256)
  | .error (.breaking _) => .exited 0
  | .error (.continuing _) => .exited 0
  | .error (.killed process signal) => .killed (if process = 0 then numbers.headD 0 else process)
      signal
  | .error .expired => .expired
  | .error .exhausted => .exhausted

structure ShellArguments where
  options : List (Bool × Char) := []
  names : List (Bool × Octets) := []
  /-- The script is the first operand and no file. -/
  isText : Bool := false
  operands : List Octets := []

def ShellArguments.read : List Octets → ShellArguments
  | [] => {}
  | "--" :: rest => { operands := rest }
  | "-" :: rest => { operands := rest }
  | arg :: rest =>
    let on := arg.startsWith "-"
    let letters := arg.toList.drop 1
    if (on || arg.startsWith "+") && letters ≠ [] then
      match letters.contains 'o', rest with
      | true, name :: rest =>
        let o := read rest
        { o with
          options := (letters.filter (· ≠ 'o')).map (fun c => (on, c)) ++ o.options
          names := (on, name) :: o.names, isText := o.isText || letters.contains 'c' }
      | _, rest =>
        let o := read rest
        { o with
          options := letters.map (fun c => (on, c)) ++ o.options
          isText := o.isText || letters.contains 'c' }
    else { operands := arg :: rest }

def ownCommands : List (String × (List Octets → Step Nat)) := [
  ("alias", setAliases), ("cd", changeDirectory), ("chdir", changeDirectory),
  ("export", exportVariables), ("getopts", nextOption), ("hash", trackPrograms), ("kill", kill),
  ("local", hideVariables), ("pwd", printDirectory), ("read", readLine),
  ("readonly", protectVariables), ("set", setParameters), ("shift", shift), ("trap", setTraps),
  ("type", describeAll true), ("umask", mask), ("unalias", dropAliases), ("unset", forget)]

def loopCount (args : List Octets) : Step Nat := do
  match args with
  | [] => return 1
  | text :: _ =>
    match natural? text.toList with
    | some n => if n = 0 then Step.fail ("Illegal number: " ++ text) else return n
    | none => Step.fail ("Illegal number: " ++ text)

/-- The status that a command asks for, or that of the last command. -/
def givenStatus (args : List Octets) : Step Nat := do
  match args with
  | [] => return (← Step.shell).status
  | text :: _ => return (← number text) % 4294967296

/-- The command `ulimit`. -/
def limits (args : List Octets) : Step Nat := do
  let (options, operands) ← flags "HSatfdsmcnpvlrwqx" "" args
  if operands ≠ [] then return 0
  else
    let kind := ((options.filter fun (c, _) => c ≠ 'H' && c ≠ 'S').getLast?.map (·.1)).getD 'f'
    Step.print 1 ((match kind with
      | 's' => "8192"
      | 'n' => "1048576"
      | 'c' => "0"
      | _ => "unlimited") ++ "\n")
    return 0

/-- The command `jobs`. -/
def listJobs (args : List Octets) : Step Nat := do
  let (options, _) ← flags "lp" "" args
  let jobs := ((← get).jobs.filter fun job => !job.isOrphan)
  let count := jobs.length
  for (job, k) in jobs.zip (List.range count) do
    if options.any (·.1 = 'p') then Step.print 1 (toString job.number ++ "\n")
    else
      let mark := if k + 1 = count then "+" else if k + 2 = count then "-" else " "
      let state := match job.status? with
        | none => "Running"
        | some 0 => "Done"
        | some n => if n > 128 then (Signal.ofNumber (n - 128)).meaning
          else "Done(" ++ toString n ++ ")"
      let number := if options.any (·.1 = 'l') then toString job.number ++ " " else ""
      Step.print 1 ("[" ++ toString (k + 1) ++ "] " ++ mark ++ " " ++ number ++
        padRight 27 state ++ "\n")
  return 0

/-- Put what is known of a process in the background in place of what was known before. -/
def updateJob (job : Job) : Step Unit :=
  modify fun r => { r with
    jobs := r.jobs.map fun own => if own.number = job.number then job else own }

/-- The process in the background that is to run next: the one that has come least far. -/
def nextJob? (stalled : List Nat) (jobs : List Job) : Option Job :=
  (jobs.filter fun job => job.status?.isNone && !stalled.contains job.number).foldl
    (fun (best? : Option Job) job =>
      match best? with
      | some best => if job.clock < best.clock then some job else some best
      | none => some job) none

/-- What is left to do of frames when loops are left; the nearest loop goes on if asked to. -/
def leaveLoops (goesOn : Bool) : Nat → List Frame → List Frame
  | _, [] => []
  | loops, frame :: rest =>
    let isLoop : Bool := match frame with
      | .loop _ _ _ => true
      | .each _ _ _ => true
      | _ => false
    if !isLoop then leaveLoops goesOn loops rest
    else if loops ≤ 1 then (if goesOn then frame :: rest else rest)
    else leaveLoops goesOn (loops - 1) rest

/-- Run a program that works on the session, as a command of the shell. What it cannot print is an
error. -/
def runTool (program : Program) (args : List Octets) : Step Nat := do
  let r ← get
  let s := r.shell
  let i : Invocation :=
    { name := (s.label.dropEnd 2).toString, args := args, environment := s.environment
      descriptors := s.descriptors, umask := s.umask, numbers := s.numbers
      start := fun session _ _ _ => (.error .noEntry, session) }
  let (ending, lost?, session) :=
    Tool.execute i { session := r.session, holds := true } program
  set { r with session := session }
  match ending with
  | .exited status =>
    if lost?.isSome then
      Step.complain (s.command?.getD "" ++ ": I/O error")
      return max status 1
    else return status
  | .killed process signal => throw (.killed process signal)
  | .expired => throw .expired
  | .exhausted => throw .exhausted

def startJob (body : Statement) : Step Unit := do
  let number ← Step.newProcess
  let r ← get
  let (input, session) := r.session.addChannel .nothing
  set { r with session := session }
  let (frames, redirects) : List Frame × List Redirect := match body with
    | .subshell _ inner [] => ([.statement false inner], [])
    | body => ([.statement false body], [])
  let _ := redirects
  let shell := { r.shell with
    descriptors := (0, input) :: r.shell.descriptors
    traps := r.shell.traps.filter (·.2 = ""), depth := r.shell.depth + 1, loops := 0 }
  let job : Job :=
    { number := number, shell := shell, here := session.files.here, rest := frames
      clock := ⟨session.files.now.nanoseconds + forkingTime⟩ }
  modify fun r => { r with
    jobs := r.jobs ++ [job], shell := { r.shell with lastJob? := some number } }

mutual

/-- Expand a word. In an assignment, homes also stand behind colons. -/
def expandWord (assigning : Bool) (w : Word) : Nat → Step (List Item)
  | 0 => throw .exhausted
  | fuel + 1 => do
    let parts ← (withHomes (← Step.shell) assigning w).mapM fun piece => do
      match piece with
      | .text content true => return .anchor :: glyphs content .quoted
      | .text content false => return glyphs content .written
      | .parameter name use word quoted => expandParameter name use word quoted fuel
      | .output body quoted => return valueItems quoted (← captureOutput body fuel)
      | .arithmetic expression quoted => return valueItems quoted (← expandSum expression fuel)
    return parts.flatten
termination_by structural fuel => fuel

def expandText (assigning : Bool) (w : Word) : Nat → Step Octets
  | 0 => throw .exhausted
  | fuel + 1 => do
    let items ← expandWord assigning w fuel
    return textOf (← Step.shell) items
termination_by structural fuel => fuel

def expandSum (expression : Word) : Nat → Step Octets
  | 0 => throw .exhausted
  | fuel + 1 => do
    let text ← expandText false expression fuel
    let s ← Step.shell
    match evaluate (fun name => (s.value? name).getD "") text with
    | .ok (n, assigned) =>
      for (name, value) in assigned do Step.assign name (toString value)
      return toString n
    | .error failure => Step.fail (failure.message text)
termination_by structural fuel => fuel

def expandParameter (name : String) (use : Use) (word : Word) (quoted : Bool) :
    Nat → Step (List Item)
  | 0 => throw .exhausted
  | fuel + 1 => do
    let s ← Step.shell
    let found? := s.parameter? name
    let values := found?.getD []
    let whole := joinedValue s values
    let plain := parameterItems s name quoted values
    let missing (emptyCounts : Bool) : Bool := found?.isNone || (emptyCounts && whole = "")
    let other : Step (List Item) := do
      let items ← expandWord false word fuel
      return if quoted then .anchor :: items else asExpanded items
    let pattern : Step (List GlobItem) := do
      let items ← expandWord false word fuel
      return GlobItem.read (wholeField [] items)
    let mustBeSet : Step Unit := do
      if s.isOn 'u' && found?.isNone && name ≠ "@" && name ≠ "*" then
        Step.fail (missingText name false)
    match use with
    | .value =>
      mustBeSet
      return plain
    | .length =>
      mustBeSet
      return valueItems quoted (toString whole.length)
    | .fallback emptyCounts => if missing emptyCounts then other else return plain
    | .substitute emptyCounts =>
      if missing emptyCounts then return if quoted then [.anchor] else [] else other
    | .assign emptyCounts =>
      if missing emptyCounts then
        if !isName name.toList then Step.fail (name ++ ": bad variable name")
        else
          let items ← other
          let value := textOf (← Step.shell) items
          Step.assign name value
          return valueItems quoted value
      else return plain
    | .demand emptyCounts =>
      if missing emptyCounts then
        if word.isEmpty then Step.fail (missingText name emptyCounts)
        else
          let text := textOf (← Step.shell) (← other)
          Step.fail (name ++ ": " ++ text)
      else return plain
    | .cutBack longest =>
      mustBeSet
      let p ← pattern
      return valueItems quoted (String.ofList (cutBack longest p whole.toList))
    | .cutFront longest =>
      mustBeSet
      let p ← pattern
      return valueItems quoted (String.ofList (cutFront longest p whole.toList))
    | .invalid => Step.fail "Bad substitution"
termination_by structural fuel => fuel

/-- What a script prints, without the ends of lines behind it. -/
def captureOutput (body : List Statement) : Nat → Step Octets
  | 0 => throw .exhausted
  | fuel + 1 => do
    let channel ← Step.openBuffer
    let descriptors := (← Step.shell).descriptors
    let status ← Step.withDescriptors ((1, channel) :: descriptors)
      (isolated true (runSequence false 0 body fuel) fuel)
    Step.alter fun s => { s with outputStatus := status }
    let r ← get
    return trimmedOutput (r.session.available channel)
termination_by structural fuel => fuel

/-- Take a step in a copy of the shell: the shell and its directory stay as they were. With
`settle`, what the copy has started in the background ends before the copy does. -/
def isolated (settle : Bool) (a : Step Nat) : Nat → Step Nat
  | 0 => throw .exhausted
  | fuel + 1 => do
    let before ← get
    Step.alter fun s => { s with
      traps := s.traps.filter (·.2 = ""), depth := s.depth + 1 }
    modify fun r => { r with jobs := [] }
    let result ← Step.outcome do
      let status ← untilEnd a fuel
      if settle then runJobs none none [] fuel
      return status
    modify fun r => { r with
      shell := before.shell
      jobs := before.jobs ++ r.jobs.map fun job => { job with isOrphan := true }
      session.files.here := before.session.files.here
      session.provisions := before.session.provisions }
    match result with
    | .ok status => return status % 256
    | .error (.exiting status) => return status % 256
    | .error (.failing status) => return status % 256
    | .error (.returning status) => return status % 256
    | .error (.breaking _) => return 0
    | .error (.continuing _) => return 0
    | .error other => throw other
termination_by structural fuel => fuel

def untilEnd (a : Step Nat) : Nat → Step Nat
  | 0 => throw .exhausted
  | fuel + 1 => do
    let status ← match ← Step.outcome a with
      | .ok status => pure status
      | .error (.exiting status) => pure status
      | .error (.failing status) => pure status
      | .error (.returning status) => pure status
      | .error other => throw other
    match (← Step.shell).traps.lookup 0 with
    | some action => do
      Step.alter fun s => { s with
        traps := s.traps.filter (·.1 ≠ 0), status := status, command? := none }
      match ← Step.outcome (runText action fuel) with
      | .ok _ => return status
      | .error (.exiting other) => return other
      | .error (.failing other) => return other
      | .error (.returning _) => return status
      | .error other => throw other
    | none => return status
termination_by structural fuel => fuel

/-- Run a script in the shell, one line at a time. With `shown`, its lines are printed if the shell
is told to. -/
def runLines (shown : Bool) (source : Source) (status : Nat) : Nat → Step Nat
  | 0 => throw .exhausted
  | fuel + 1 => do
    let s ← Step.shell
    let source := { source with documents := s.documents, aliases := s.aliases }
    match source.nextLine with
    | .error failure =>
      Step.alter fun s => { s with line := failure.line }
      Step.fail failure.text
    | .ok (none, _) => return status
    | .ok (some statement, behind) =>
      Step.alter fun s => { s with documents := behind.documents }
      if shown && s.isOn 'v' then
        let length := source.rest.length - behind.rest.length
        Step.print 2 (String.ofList (source.rest.take length))
      let status ← run false statement fuel
      runLines shown behind status fuel
termination_by structural fuel => fuel

def runText (text : Octets) : Nat → Step Nat
  | 0 => throw .exhausted
  | fuel + 1 => runLines false { rest := text.toList } 0 fuel
termination_by structural fuel => fuel

def expandFields (w : Word) : Nat → Step (List Octets)
  | 0 => throw .exhausted
  | fuel + 1 => do
    let items ← expandWord false w fuel
    let s ← Step.shell
    let files ← Step.files
    let fields := fieldsOf s.separators items
    return if s.isOn 'f' then fields.map Field.text else fields.flatMap (Field.resolve files)
termination_by structural fuel => fuel

/-- Expand words into the arguments of a command. Some commands keep assignments whole. -/
def expandArguments (words : List Word) (done : List Octets) : Nat → Step (List Octets)
  | 0 => throw .exhausted
  | fuel + 1 => do
    match words with
    | [] => return done
    | w :: rest =>
      let command := (done.find? (· ≠ "command")).getD ""
      if takesAssignments command && (assignment? w).isSome then
        expandArguments rest (done ++ [← expandText true w fuel]) fuel
      else
        let own ← expandFields w fuel
        expandArguments rest (done ++ own) fuel
termination_by structural fuel => fuel

def expandTargets (redirects : List Redirect) :
    Nat → Step (List (Nat × RedirectKind × Octets))
  | 0 => throw .exhausted
  | fuel + 1 =>
    redirects.mapM fun r => do
      match r with
      | .mk descriptor (.document number) _ =>
        let w := ((← Step.shell).documents[number]?).getD []
        return (descriptor, .document number, ← expandText false w fuel)
      | .mk descriptor kind target =>
        let text ← expandText false target fuel
        let isPlace := text = "-" || (text.length = 1 && text.toList.all Char.isDigit)
        if kind = .duplicate && !isPlace then Step.fail "Syntax error: Bad fd number"
        else return (descriptor, kind, text)
termination_by structural fuel => fuel

/-- Take a step with redirections. One that fails ends the command alone. -/
def withRedirects (redirects : List Redirect) (a : Step Nat) : Nat → Step Nat
  | 0 => throw .exhausted
  | fuel + 1 => do
    let targets ← expandTargets redirects fuel
    match ← Step.outcome (redirect (← Step.shell).descriptors targets) with
    | .ok descriptors => Step.withDescriptors descriptors a
    | .error (.failing status) => return status
    | .error other => throw other
termination_by structural fuel => fuel

def answerSignals : Nat → Step Unit
  | 0 => throw .exhausted
  | fuel + 1 => do
    let r ← get
    let own := r.shell.numbers.headD 0
    if r.shell.depth > 0 then return ()
    else match r.session.waiting.find? (·.1 = own) with
      | none => return ()
      | some (_, signal) =>
        Step.alterSession fun s => { s with waiting := s.waiting.erase (own, signal) }
        let status := r.shell.status
        match r.shell.traps.lookup signal with
        | some action => do
          let _ ← runText action fuel
          Step.alter fun s => { s with status := status }
        | none => pure ()
        answerSignals fuel
termination_by structural fuel => fuel

/-- Run a statement. A statement is `tested` when its failure is what something else waits for. -/
def run (tested : Bool) (statement : Statement) : Nat → Step Nat
  | 0 => throw .exhausted
  | fuel + 1 => do
    if (← Step.shell).isOn 'n' then return 0
    let ended (status : Nat) : Step Nat := do
      Step.alter fun s => { s with status := status }
      if !(← get).session.waiting.isEmpty then answerSignals fuel
      if status ≠ 0 && !tested && (← Step.shell).isOn 'e' then throw (.exiting status)
      return status
    let settled (status : Nat) : Step Nat := do
      Step.alter fun s => { s with status := status }
      return status
    match statement with
    | .simple line assignments words redirects => do
      Step.alter fun s => { s with line := line }
      ended (← runSimple assignments words redirects fuel)
    | .pipeline parts => do
      parts.forM trackFirst
      let status ← runPipeline tested none parts fuel
      ended status
    | .background body => do
      startJob body
      settled 0
    | .negate s => do
      let status ← run true s fuel
      settled (if status = 0 then 1 else 0)
    | .both first second => do
      let status ← run true first fuel
      if status = 0 then run tested second fuel else return status
    | .either first second => do
      let status ← run true first fuel
      if status = 0 then return 0 else run tested second fuel
    | .sequence items => runSequence tested 0 items fuel
    | .branch condition body otherwise => do
      let status ← run true condition fuel
      if status = 0 then run tested body fuel
      else settled (← run tested otherwise fuel)
    | .loop untilSuccess condition body => do
      settled (← runLoop tested untilSuccess condition body 0 fuel)
    | .each line name words? body => do
      Step.alter fun s => { s with line := line }
      let values ← match words? with
        | some words => expandArguments words [] fuel
        | none => pure (← Step.shell).args
      settled (← runEach tested name body 0 values fuel)
    | .choose line subject arms => do
      Step.alter fun s => { s with line := line }
      let text ← expandText false subject fuel
      settled (← runArms tested text arms fuel)
    | .group line body redirects => do
      Step.alter fun s => { s with line := line }
      settled (← withRedirects redirects (run tested body fuel) fuel)
    | .subshell line body redirects => do
      Step.alter fun s => { s with line := line }
      let status ← isolated false (do
        let targets ← expandTargets redirects fuel
        let descriptors ← redirect (← Step.shell).descriptors targets
        Step.withDescriptors descriptors (untilEnd (run tested body fuel) fuel)) fuel
      ended status
    | .define name body => do
      Step.alter fun s =>
        { s with functions := (name, body) :: s.functions.filter (·.1 ≠ name) }
      settled 0
termination_by structural fuel => fuel

def runSequence (tested : Bool) (status : Nat) (items : List Statement) : Nat → Step Nat
  | 0 => throw .exhausted
  | fuel + 1 => do
    match items with
    | [] => return status
    | s :: rest =>
      let status ← run tested s fuel
      runSequence tested status rest fuel
termination_by structural fuel => fuel

/-- Run the parts of a pipeline, each reading what the part before it printed. A part that does not
come to its end is ended when its reader goes. -/
def runPipeline (tested : Bool) (input? : Option Nat) (parts : List Statement) : Nat → Step Nat
  | 0 => throw .exhausted
  | fuel + 1 => do
    let descriptors := (← Step.shell).descriptors
    let reading := match input? with
      | some channel => (0, channel) :: descriptors
      | none => descriptors
    match parts with
    | [] => return 0
    | [s] => Step.withDescriptors reading (isolated true (run tested s fuel) fuel)
    | s :: rest =>
      let channel ← Step.openBuffer
      match ← Step.outcome (Step.withDescriptors ((1, channel) :: reading)
        (isolated true (run tested s fuel) fuel)) with
      | .ok _ => pure ()
      | .error .exhausted => pure ()
      | .error other => throw other
      runPipeline tested (some channel) rest fuel
termination_by structural fuel => fuel

/-- Run the body of a loop once; the answer tells whether the loop goes on. -/
def runRound (tested : Bool) (body : Statement) : Nat → Step (Nat × Bool)
  | 0 => throw .exhausted
  | fuel + 1 => do
    let around := (← Step.shell).loops
    Step.alter fun s => { s with loops := around + 1 }
    let result ← Step.outcome (run tested body fuel)
    Step.alter fun s => { s with loops := around }
    match result with
    | .ok status => return (status, true)
    | .error (.breaking loops) =>
      if loops > 1 then throw (.breaking (loops - 1)) else return (0, false)
    | .error (.continuing loops) =>
      if loops > 1 then throw (.continuing (loops - 1)) else return (0, true)
    | .error other => throw other
termination_by structural fuel => fuel

def runLoop (tested untilSuccess : Bool) (condition body : Statement) (status : Nat) :
    Nat → Step Nat
  | 0 => throw .exhausted
  | fuel + 1 => do
    let around := (← Step.shell).loops
    Step.alter fun s => { s with loops := around + 1 }
    let answer ← Step.outcome (run true condition fuel)
    Step.alter fun s => { s with loops := around }
    match answer with
    | .error (.breaking loops) =>
      if loops > 1 then throw (.breaking (loops - 1)) else return 0
    | .error (.continuing loops) =>
      if loops > 1 then throw (.continuing (loops - 1))
      else runLoop tested untilSuccess condition body 0 fuel
    | .error other => throw other
    | .ok answer =>
      if (answer = 0) = untilSuccess then return status
      else
        let (status, goesOn) ← runRound tested body fuel
        if goesOn then runLoop tested untilSuccess condition body status fuel else return status
termination_by structural fuel => fuel

def runEach (tested : Bool) (name : String) (body : Statement) (status : Nat)
    (values : List Octets) : Nat → Step Nat
  | 0 => throw .exhausted
  | fuel + 1 => do
    match values with
    | [] => return status
    | value :: rest =>
      Step.assign name value
      let (status, goesOn) ← runRound tested body fuel
      if goesOn then runEach tested name body status rest fuel else return status
termination_by structural fuel => fuel

def runArms (tested : Bool) (text : Octets) (arms : List (List Word × Statement)) :
    Nat → Step Nat
  | 0 => throw .exhausted
  | fuel + 1 => do
    match arms with
    | [] => return 0
    | (patterns, body) :: rest =>
      if ← fitsAny text patterns fuel then run tested body fuel
      else runArms tested text rest fuel
termination_by structural fuel => fuel

def fitsAny (text : Octets) (patterns : List Word) : Nat → Step Bool
  | 0 => throw .exhausted
  | fuel + 1 => do
    match patterns with
    | [] => return false
    | w :: rest =>
      let items ← expandWord false w fuel
      if GlobItem.fits (GlobItem.read (wholeField (joint (← Step.shell)) items)) text.toList then
        return true
      else fitsAny text rest fuel
termination_by structural fuel => fuel

/-- Give variables their values, one after the other. With `locally`, they are hidden first and
programs see them. -/
def assignAll (locally : Bool) (published : Bool) (assignments : List (String × Word))
    (shown : List Octets) : Nat → Step (List Octets)
  | 0 => throw .exhausted
  | fuel + 1 => do
    match assignments with
    | [] => return shown
    | (name, w) :: rest =>
      let text ← expandText true w fuel
      if locally then hideVariable name
      Step.assign name text
      if locally || published then Step.alter (·.publish name)
      assignAll locally published rest (shown ++ [name ++ "=" ++ text]) fuel
termination_by structural fuel => fuel

def runSimple (assignments : List (String × Word)) (words : List Word)
    (redirects : List Redirect) : Nat → Step Nat
  | 0 => throw .exhausted
  | fuel + 1 => do
    Step.alter fun s => { s with outputStatus := 0 }
    let args ← expandArguments words [] fuel
    let outer := (← Step.shell).descriptors
    let plain := args.dropWhile (· = "command")
    let isPlainCommand := args.length = plain.length
    let name := args.headD ""
    let isSpecial := specialCommands.contains name
    let targets ← expandTargets redirects fuel
    match ← Step.outcome (redirect outer targets) with
    | .error (.failing status) => if isSpecial then throw (.failing status) else return status
    | .error other => throw other
    | .ok descriptors =>
      let replaces := plain.headD "" = "exec" && (isSpecial || !isPlainCommand)
      let kept := (← Step.shell).hidden.length
      let result ← Step.outcome (Step.withDescriptors descriptors do
        let locally := args ≠ [] && !isSpecial
        let shown ← assignAll locally (name = "exec" && args.length > 1) assignments [] fuel
        if (← Step.shell).isOn 'x' then
          let lead ← expandText false
            [Piece.text (((← Step.shell).value? "PS4").getD "+ ") true] fuel
          Step.withDescriptors outer
            (Step.print 2 (lead ++ " ".intercalate (shown ++ args) ++ "\n"))
        match args with
        | [] => return (← Step.shell).outputStatus
        | name :: args => runCommand true name args fuel)
      if args ≠ [] && !isSpecial then showHidden kept
      if replaces && result.isOk then Step.alter fun s => { s with descriptors := descriptors }
      ofExcept result
termination_by structural fuel => fuel

def runCommand (withFunctions : Bool) (name : Octets) (args : List Octets) : Nat → Step Nat
  | 0 => throw .exhausted
  | fuel + 1 => do
    let s ← Step.shell
    match (if withFunctions then s.functions.lookup name else none) with
    | some body => runFunction body args fuel
    | none =>
      if isOwn name then
        Step.alter fun s => { s with command? := some name }
        let result ← Step.outcome (runOwn name args fuel)
        Step.alter fun after => { after with command? := s.command? }
        match result with
        | .error (.failing status) =>
          if specialCommands.contains name && withFunctions then throw (.failing status)
          else return status
        | other => ofExcept other
      else runProgram false name args fuel
termination_by structural fuel => fuel

def runFunction (body : Statement) (args : List Octets) : Nat → Step Nat
  | 0 => throw .exhausted
  | fuel + 1 => do
    let s ← Step.shell
    Step.alter fun s => { s with
      args := args, loops := 0, calls := s.calls + 1, optionOffset := 0 }
    let result ← Step.outcome (run false body fuel)
    showHidden s.hidden.length
    Step.alter fun after => { after with
      args := s.args, loops := s.loops, calls := s.calls, optionOffset := s.optionOffset }
    match result with
    | .ok status => return status
    | .error (.returning status) =>
      Step.alter fun s => { s with status := status }
      return status
    | .error other => throw other
termination_by structural fuel => fuel

def runOwn (name : Octets) (args : List Octets) : Nat → Step Nat
  | 0 => throw .exhausted
  | fuel + 1 => do
    match builtIn.lookup name with
    | some program => runTool program args
    | none =>
      match ownCommands.lookup name with
      | some command => command args
      | none =>
        let s ← Step.shell
        match name with
        | "exit" => throw (.exiting (← givenStatus args))
        | "return" => throw (.returning (← givenStatus args))
        | "break" =>
          let n ← loopCount args
          if s.loops = 0 then return 0 else throw (.breaking (min n s.loops))
        | "continue" =>
          let n ← loopCount args
          if s.loops = 0 then return 0 else throw (.continuing (min n s.loops))
        | "eval" => if args = [] then return 0 else runText (" ".intercalate args) fuel
        | "." => runFile args fuel
        | "exec" =>
          match args with
          | [] => return 0
          | program :: args =>
            let status ← runProgram true program args fuel
            throw (.exiting status)
        | "command" => runPlainly args fuel
        | "wait" => waitFor args fuel
        | "jobs" => do
          runJobs (some (← get).session.files.now) none [] fuel
          listJobs args
        | "times" =>
          let line := "0m0.000000s 0m0.000000s\n"
          Step.print 1 (line ++ line)
          return 0
        | "ulimit" => limits args
        | "fg" => Step.fail "No current job"
        | "bg" => Step.fail "No current job"
        | _ => return 0
termination_by structural fuel => fuel

/-- The command `.`: run a file in the shell. -/
def runFile (args : List Octets) : Nat → Step Nat
  | 0 => throw .exhausted
  | fuel + 1 => do
    let (_, args) ← flags "" "" args
    match args with
    | [] => return 0
    | target :: _ =>
      let hasSlash := target.toList.contains '/'
      let searched ← searchedPath
      let files ← Step.files
      let readable (p : Octets) : Bool := match files.status (Octets.path p) with
        | .ok (_, e) => e.isFile
        | .error _ => false
      match (if hasSlash then some target else (searchPaths target searched).find? readable) with
      | none => Step.fail (target ++ ": not found")
      | some path =>
        let r ← get
        match r.session.openFile r.shell.descriptors (Octets.path path) .reading 0 with
        | .error number =>
          Step.fail ("cannot open " ++ target ++ ": " ++ openFailure "No such file" number)
        | .ok (channel, session) =>
          let text := Octets.ofArray (session.available channel)
          Step.alter fun s => { s with command? := r.shell.command?.filter (· ≠ ".") }
          match ← Step.outcome (runText text fuel) with
          | .ok status => return status
          | .error (.returning status) => return status
          | .error other => throw other
termination_by structural fuel => fuel

/-- The command `command`: run a command that is no function, or say what names stand for. -/
def runPlainly (args : List Octets) : Nat → Step Nat
  | 0 => throw .exhausted
  | fuel + 1 => do
    let (options, rest) ← flags "pvV" "" args
    match options.find? fun (c, _) => c = 'v' || c = 'V' with
    | some (c, _) => describeAll (c = 'V') rest
    | none =>
      match rest with
      | [] => return 0
      | name :: rest => runCommand false name rest fuel
termination_by structural fuel => fuel

/-- Run a program from inside a script. A program that takes the place of the shell ends without a
message. -/
def runProgram (replacing : Bool) (name : Octets) (args : List Octets) : Nat → Step Nat
  | 0 => throw .exhausted
  | fuel + 1 => do
    let searched ← searchedPath
    let located := locateProgram (← Step.files) name searched args
    match located with
    | .error number =>
      let missing := number = .noEntry || number = .notDirectory
      Step.complain (name ++ ": " ++ (if name = "" then Errno.accessDenied.text
        else if missing then "not found" else number.text))
      return if name = "" || missing || number = .linkLoop || number = .nameTooLong then 127
        else 126
    | .ok (path, target, argv) =>
      track name path
      let r ← get
      let (late, session) := r.session.pass startingTime
      set { r with session := session }
      if late then throw .expired
      if !r.jobs.isEmpty then runJobs (some (← get).session.files.now) none [] fuel
      let r ← get
      let s := r.shell
      let (ending, session) := startProgram r.session s.descriptors s.environment s.umask s.numbers
        target argv fuel
      Step.alterSession fun _ => session
      if !r.jobs.isEmpty then runJobs (some (← get).session.files.now) none [] fuel
      match ending with
      | .exited status => return status
      | .exhausted => throw .exhausted
      | .expired => throw .expired
      | .killed process signal =>
        if s.numbers.contains process then throw (.killed process signal)
        else
          let meaning := (Signal.ofNumber signal).meaning
          if meaning ≠ "" && !replacing then Step.print 2 (meaning ++ "\n")
          return 128 + signal
termination_by structural fuel => fuel

/-- The command `wait`. -/
def waitFor (args : List Octets) : Nat → Step Nat
  | 0 => throw .exhausted
  | fuel + 1 => do
    let (_, targets) ← flags "" "" args
    match targets with
    | [] =>
      runJobs none none [] fuel
      return 0
    | target :: rest =>
      let process ← if target.startsWith "%" then processOf target else number target
      runJobs none (some process) [] fuel
      let found? := (← get).jobs.find? (·.number = process)
      let status := match found? with
        | some job => job.status?.getD 0
        | none => 127
      if rest = [] then return status else waitFor rest fuel
termination_by structural fuel => fuel

/-- Let the processes in the background run, the one that has come least far first: up to a moment,
or until one of them has ended, or until all have. A step that does not end by the moment is not
taken yet. -/
def runJobs (until_ : Option Timestamp) (target? : Option Nat) (stalled : List Nat) :
    Nat → Step Unit
  | 0 => throw .exhausted
  | fuel + 1 => do
    let r ← get
    let isDone : Bool := match target? with
      | some process => !(r.jobs.any fun job => job.number = process && job.status?.isNone)
      | none => false
    match (if isDone then none else nextJob? stalled r.jobs) with
    | none => return ()
    | some job =>
      let isAhead : Bool := match until_ with
        | some moment => moment < job.clock
        | none => false
      if isAhead then return ()
      else
        let before := r.session
        let deadline? : Option Timestamp := match until_, before.deadline? with
          | some moment, some deadline => some (if moment < deadline then moment else deadline)
          | some moment, none => some moment
          | none, deadline? => deadline?
        set ({ r with
          session := { before with
            files := { before.files with here := job.here, now := job.clock }
            deadline? := deadline? }
          shell := job.shell, jobs := [] } : Running)
        let result ← Step.outcome (stepJob job.rest fuel)
        let after ← get
        match result with
        | .error .expired =>
          if until_.isSome then
            set r
            runJobs until_ target? (job.number :: stalled) fuel
          else
            set { r with session := { after.session with
              files := { after.session.files with here := before.files.here }
              deadline? := before.deadline? } }
            throw .expired
        | .error (.killed process signal) =>
          set { r with session := { after.session with
            files := { after.session.files with here := before.files.here }
            deadline? := before.deadline? } }
          throw (.killed process signal)
        | .error .exhausted => throw .exhausted
        | result =>
          let clock := after.session.files.now
          let now : Timestamp := if until_.isSome || clock < before.files.now then before.files.now
            else clock
          let (rest, status?) : List Frame × Option Nat := match result with
            | .ok rest => (rest, if rest.isEmpty then some after.shell.status else none)
            | .error (.exiting status) => ([], some (status % 256))
            | .error (.failing status) => ([], some (status % 256))
            | .error (.returning status) => ([], some (status % 256))
            | .error _ => ([], some 0)
          set ({ r with session := { after.session with
            files := { after.session.files with here := before.files.here, now := now }
            deadline? := before.deadline?, provisions := before.provisions } } : Running)
          updateJob { job with
            shell := after.shell, here := after.session.files.here, clock := clock, rest := rest
            status? := status? }
          runJobs until_ target? stalled fuel
termination_by structural fuel => fuel

/-- Take one step of a process in the background; the answer is what is left to do. -/
def stepJob (frames : List Frame) : Nat → Step (List Frame)
  | 0 => throw .exhausted
  | fuel + 1 => do
    let status := (← Step.shell).status
    match frames with
    | [] => return []
    | .statement tested s :: rest =>
      match s with
      | .sequence items => return items.map (Frame.statement tested ·) ++ rest
      | .group _ body [] => return .statement tested body :: rest
      | .both first second => return .statement true first :: .after true second :: rest
      | .either first second => return .statement true first :: .after false second :: rest
      | .branch condition body otherwise =>
        return .statement true condition :: .choice body otherwise :: rest
      | .loop untilSuccess condition body =>
        return .statement true condition :: .decision untilSuccess condition body :: rest
      | .each _ name words? body =>
        let values ← match words? with
          | some words => expandArguments words [] fuel
          | none => pure (← Step.shell).args
        Step.alter fun s => { s with status := 0 }
        return .each name values body :: rest
      | s =>
        let loops := (frames.filter fun
          | .loop _ _ _ => true
          | .each _ _ _ => true
          | _ => false).length
        Step.alter fun s => { s with loops := loops }
        match ← Step.outcome (untilJobEnd rest.isEmpty (run tested s fuel) fuel) with
        | .ok status =>
          Step.alter fun s => { s with status := status }
          runJobs none none [] fuel
          return rest
        | .error (.breaking n) => return leaveLoops false n rest
        | .error (.continuing n) => return leaveLoops true n rest
        | .error (.exiting status) => throw (.exiting (← untilEnd (throw (.exiting status)) fuel))
        | .error other => throw other
    | .after onSuccess s :: rest =>
      return if (status = 0) = onSuccess then .statement false s :: rest else rest
    | .choice first second :: rest =>
      return .statement false (if status = 0 then first else second) :: rest
    | .negation :: rest =>
      Step.alter fun s => { s with status := if status = 0 then 1 else 0 }
      return rest
    | .decision untilSuccess condition body :: rest =>
      if (status = 0) = untilSuccess then
        Step.alter fun s => { s with status := 0 }
        return rest
      else return .statement false body :: .loop untilSuccess condition body :: rest
    | .loop untilSuccess condition body :: rest =>
      return .statement true condition :: .decision untilSuccess condition body :: rest
    | .each name values body :: rest =>
      match values with
      | [] => return rest
      | value :: values =>
        Step.assign name value
        return .statement false body :: .each name values body :: rest
termination_by structural fuel => fuel

/-- Take a step of a process in the background; behind the last one comes what was provided for the
end. -/
def untilJobEnd (isLast : Bool) (a : Step Nat) : Nat → Step Nat
  | 0 => throw .exhausted
  | fuel + 1 => if isLast then untilEnd a fuel else a
termination_by structural fuel => fuel

/-- Start a program that was found, and run it to its end. `above` holds the numbers of the
processes that wait for it. -/
def startProgram (session : Session) (descriptors : Descriptors) (environment : Environment)
    (umask : Nat) (above : List Nat) (target : Runnable) (argv : List Octets) :
    Nat → Ending × Session
  | 0 => (.exhausted, session)
  | fuel + 1 =>
    let own := session.nextProcess
    let numbers := own :: above
    let here := session.files.here
    let session := { session with nextProcess := own + 1 }
    let directory := startDirectory environment session.files
    let shell : ShellProcess :=
      { name := argv.headD "", args := argv.drop 1, numbers := numbers, directory := directory
        bindings := importVariables environment numbers directory, descriptors := descriptors
        umask := umask }
    let asShell (a : Step Nat) : Ending × Session :=
      let whole : Step Nat := do
        let status ← untilEnd a fuel
        let now := (← get).session.files.now
        runJobs none none [] fuel
        Step.alterSession fun s => { s with files := { s.files with now := now } }
        return status
      let (result, r) := whole.run.run ⟨session, shell, []⟩
      (endingOf numbers result, { r.session with
        files := { r.session.files with here := here }
        provisions := r.session.provisions.filter (·.1 ≠ own) })
    match target with
    | .text content => asShell (runText content fuel)
    | .program name args =>
      if ["sh", "dash", "bash"].contains name then asShell (runShell args fuel)
      else match installed.lookup name with
        | some program =>
          let i : Invocation :=
            { name := argv.headD name, args := args, environment := environment
              descriptors := descriptors, umask := umask, numbers := numbers
              start := fun session descriptors environment argv =>
                startNamed session descriptors environment umask numbers argv fuel }
          let (ending, session) := Tool.run i session program
          (ending, { session with files := { session.files with here := here } })
        | none => (.exited 127, session)
termination_by structural fuel => fuel

/-- Look for a program and run it to its end. -/
def startNamed (session : Session) (descriptors : Descriptors) (environment : Environment)
    (umask : Nat) (above : List Nat) (argv : List Octets) :
    Nat → Except Errno Ending × Session
  | 0 => (.ok .exhausted, session)
  | fuel + 1 =>
    let searched := (environment.lookup "PATH").getD usualSearch
    match locateProgram session.files (argv.headD "") searched (argv.drop 1) with
    | .error number => (.error number, session)
    | .ok (_, target, argv) =>
      let (late, session) := session.pass startingTime
      if late then (.ok .expired, session)
      else
        let (ending, session) :=
          startProgram session descriptors environment umask above target argv fuel
        (.ok ending, session)
termination_by structural fuel => fuel

def runShell (args : List Octets) : Nat → Step Nat
  | 0 => throw .exhausted
  | fuel + 1 => do
    let o := ShellArguments.read args
    let started := (← Step.shell).name
    let complain (text : Octets) : Step Nat := do
      Step.print 2 (started ++ ": 0: " ++ text ++ "\n")
      return 2
    let isKnown (c : Char) : Bool := c = 'c' || c = 'l' || c = 'p' ||
      (optionNames.any (·.2 = c) && c ≠ '\x01' && c ≠ '\x02')
    match o.options.find? fun (_, c) => !isKnown c,
        o.names.find? fun (_, name) => (optionNames.lookup name).isNone with
    | some (on, c), _ =>
      complain ("Illegal option " ++ (if on then "-" else "+") ++ String.ofList [c])
    | none, some (on, name) =>
      complain ("Illegal option " ++ (if on then "-" else "+") ++ "o " ++ name)
    | none, none =>
      for (on, c) in o.options do
        if optionNames.any (·.2 = c) then setOption c on
      for (on, name) in o.names do
        match optionNames.lookup name with
        | some c => setOption c on
        | none => pure ()
      match o.isText, o.operands with
      | true, [] => complain "-c requires an argument"
      | true, script :: rest =>
        Step.alter fun s => { s with name := rest.headD started, args := rest.drop 1 }
        runText script fuel
      | false, file :: rest =>
        if (← Step.shell).isOn 's' then
          Step.alter fun s => { s with args := file :: rest }
          runInput fuel
        else
          let r ← get
          match r.session.openFile r.shell.descriptors (Octets.path file) .reading 0 with
          | .ok (channel, session) =>
            set { r with session := session }
            Step.alter fun s => { s with name := file, args := rest }
            let text := Octets.ofArray (session.available channel)
            runLines true { rest := text.toList } 0 fuel
          | .error number =>
            complain ("cannot open " ++ file ++ ": " ++ openFailure "No such file" number)
      | false, [] =>
        setOption 's' true
        runInput fuel
termination_by structural fuel => fuel

def runInput : Nat → Step Nat
  | 0 => throw .exhausted
  | fuel + 1 => do
    let r ← get
    match r.shell.descriptors.lookup 0 with
    | none => return 0
    | some channel =>
      let text := Octets.ofArray (r.session.available channel)
      Step.alterSession (·.leave channel ByteArray.empty)
      runLines true { rest := text.toList } 0 fuel
termination_by structural fuel => fuel

end

/-- Run a program that was found to its end, as the first process of its kind. -/
def launch (session : Session) (descriptors : Descriptors) (environment : Environment)
    (target : Runnable) (argv : List Octets) : Ending × Session :=
  startProgram session descriptors environment 0o022 [] target argv stepLimit

end Launchpad.Machine.Shell
