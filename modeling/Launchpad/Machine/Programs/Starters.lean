import Launchpad.Machine.Inputs
import Launchpad.Machine.Runnable
import Launchpad.Machine.Signal
import Launchpad.Text.Decimal

/-!
Programs that start other programs: in another environment, for a limited time, or once for every
few words that they read.
-/

namespace Launchpad.Machine.Programs

def setName (environment : Environment) (name value : Octets) : Environment :=
  if environment.any (·.1 = name) then
    environment.map fun (own, old) => (own, if own = name then value else old)
  else environment ++ [(name, value)]

def endAs {α : Type} (ending : Ending) : Tool α := do
  match ending with
  | .killed _ signal => throw (.killed ((← Tool.invocation).numbers.headD 0) signal)
  | ending => throw ending

/-- Let another program take the place of this one. `wrong` makes the message for one that cannot
be started. -/
def become (environment : Environment) (argv : List Octets) (wrong : Octets → Octets) :
    Program := do
  let i ← Tool.invocation
  match ← Tool.start i.descriptors environment argv with
  | .ok ending => endAs ending
  | .error number =>
    Tool.fail (if number = .noEntry then 127 else 126)
      (wrong (argv.headD "") ++ ": " ++ number.text)

/-- Split a text into words as a shell would, with quotes, backslashes and names in braces. `fuel`
bounds the length; `current?` is the word that is being read. -/
def splitWords (environment : Environment) :
    Nat → Option Char → Option (List Char) → List Char → List Octets
  | 0, _, _, _ => []
  | fuel + 1, quote?, current?, cs =>
    let finished : List Octets := match current? with
      | some word => [String.ofList word.reverse]
      | none => []
    let add (out : List Char) : Option (List Char) := some (out.reverse ++ current?.getD [])
    match cs with
    | [] => finished
    | '\\' :: c :: rest =>
      if quote? = some '\'' then
        let out := if c = '\'' || c = '\\' then [c] else ['\\', c]
        splitWords environment fuel quote? (add out) rest
      else match c with
        | 'c' => finished
        | '_' => if quote?.isSome then splitWords environment fuel quote? (add [' ']) rest
          else finished ++ splitWords environment fuel quote? none rest
        | c =>
          let out := match c with
            | 'f' => '\x0c'
            | 'n' => '\n'
            | 'r' => '\r'
            | 't' => '\t'
            | 'v' => '\x0b'
            | c => c
          splitWords environment fuel quote? (add [out]) rest
    | '$' :: '\x7b' :: rest =>
      if quote? = some '\'' then splitWords environment fuel quote? (add ['$']) ('\x7b' :: rest)
      else
        let name := String.ofList (rest.takeWhile (· ≠ '\x7d'))
        let value := ((environment.lookup name).getD "").toList
        splitWords environment fuel quote? (add value) ((rest.dropWhile (· ≠ '\x7d')).drop 1)
    | c :: rest =>
      if quote? = some c then splitWords environment fuel none current? rest
      else if quote?.isSome then splitWords environment fuel quote? (add [c]) rest
      else if c = '\'' || c = '"' then
        splitWords environment fuel (some c) (some (current?.getD [])) rest
      else if [' ', '\t', '\n', '\r', '\x0b', '\x0c'].contains c then
        finished ++ splitWords environment fuel none none rest
      else if c = '#' && current?.isNone then finished
      else splitWords environment fuel none (add [c]) rest

/-- The choices of `env`. -/
def envChoices : List Choice :=
  [.flag 'i' "ignore-environment", .flag '0' "null", .valued 'u' "unset", .valued 'C' "chdir",
    .valued 'S' "split-string", .flag 'v' "debug", .named '\x03' "default-signal" .perhaps,
    .named '\x04' "ignore-signal" .perhaps, .named '\x05' "block-signal" .perhaps]

/-- Put the words of texts that are to be split in the place of these texts. `fuel` bounds their
number. -/
def withSplitWords (environment : Environment) : Nat → List Octets → List Octets
  | 0, args => args
  | fuel + 1, args =>
    match args with
    | "-S" :: text :: rest =>
      withSplitWords environment fuel
        (splitWords environment (text.length + 1) none none text.toList ++ rest)
    | arg :: rest =>
      let text? : Option (Octets × Octets) :=
        if arg.startsWith "-S" then some ("", (arg.drop 2).toString)
        else if arg.startsWith "-iS" then some ("-i", (arg.drop 3).toString)
        else if arg.startsWith "-vS" then some ("", (arg.drop 3).toString)
        else if arg.startsWith "--split-string=" then some ("", (arg.drop 15).toString)
        else none
      match text? with
      | some (before, text) =>
        withSplitWords environment fuel ((if before = "" then [] else [before]) ++
          splitWords environment (text.length + 1) none none text.toList ++ rest)
      | none =>
        if arg = "-u" || arg = "-C" then
          arg :: rest.take 1 ++ withSplitWords environment fuel (rest.drop 1)
        else if arg.startsWith "-" && arg ≠ "-" && arg ≠ "--" then
          arg :: withSplitWords environment fuel rest
        else args
    | [] => []

/-- Print the environment, or run a program in another one. -/
def env : Program := do
  let i ← Tool.invocation
  let args := withSplitWords i.environment (i.args.length + 1000) i.args
  let g ← withReader (fun i => { i with args := args }) (Tool.options envChoices 125 false)
  let (clears, operands) := match g.operands with
    | "-" :: rest => (true, rest)
    | operands => (g.has 'i', operands)
  let start := if clears then [] else i.environment
  for name in g.values 'u' do
    if name = "" || name.toList.contains '=' then
      Tool.fail 125 ("cannot unset " ++ Quoting.plain name ++ ": " ++ Errno.invalid.text)
  let start := start.filter fun (name, _) => !(g.values 'u').contains name
  let isSetting (word : Octets) : Bool := word.toList.contains '='
  let settings := operands.takeWhile isSetting
  let environment := settings.foldl (fun environment word =>
    let name := (word.takeWhile (· ≠ '=')).toString
    setName environment name (word.drop (name.length + 1)).toString) start
  let command := operands.dropWhile isSetting
  if command = [] then
    if g.has 'C' then Tool.failWithHint 125 "must specify command with --chdir (-C)"
    let lineEnd : Octets := if g.has '0' then "\x00" else "\n"
    Tool.print (String.join (environment.map fun (name, value) => name ++ "=" ++ value ++ lineEnd))
  else
    if g.has '0' then Tool.failWithHint 125 "cannot specify --null (-0) with command"
    match g.value? 'C' with
    | none => pure ()
    | some path =>
      match (← Tool.files).status (Octets.path path) with
      | .ok (l, e) =>
        if !e.isDirectory then
          Tool.fail 125 ("cannot change directory to " ++ Quoting.plain path ++ ": " ++
            Errno.notDirectory.text)
        else Tool.alterSession fun s => { s with files.here := l }
      | .error e =>
        Tool.fail 125 ("cannot change directory to " ++ Quoting.plain path ++ ": " ++ e.number.text)
    match ← Tool.start i.descriptors environment command with
    | .ok ending => endAs ending
    | .error number =>
      Tool.warn (Quoting.plain (command.headD "") ++ ": " ++ number.text)
      if number = .noEntry && (command.headD "").toList.any (fun c => c = ' ' || c = '\t') then
        Tool.warn "use -[v]S to pass options in shebang lines"
      Tool.exit (if number = .noEntry then 127 else 126)

def printenv : Program := do
  let g ← Tool.options [.flag '0' "null"] 2 false
  let environment := (← Tool.invocation).environment
  let lineEnd : Octets := if g.has '0' then "\x00" else "\n"
  if g.operands = [] then
    Tool.print (String.join (environment.map fun (name, value) => name ++ "=" ++ value ++ lineEnd))
  for name in g.operands do
    match environment.lookup name with
    | some value => Tool.print (value ++ lineEnd)
    | none => Tool.mark 1

/-- The units of a span of time, in nanoseconds. -/
def spanUnits : List (Char × Nat) :=
  [('s', 1000000000), ('m', 60000000000), ('h', 3600000000000), ('d', 86400000000000)]

/-- A span of time in nanoseconds: a number, perhaps with a unit. -/
def readSpan? (text : Octets) : Option Nat :=
  let cs := text.toList
  let (number, unit?) := match cs.getLast? with
    | some c =>
      match spanUnits.lookup c with
      | some unit => (cs.dropLast, some unit)
      | none => (cs, some 1000000000)
    | none => (cs, none)
  match unit?, Text.Decimal.read? number with
  | some unit, some (.finite false n d, []) => some (n * unit / d)
  | some _, some (.infinite false, []) => some (1000000000 * 1000000000)
  | _, _ => none

def sleep : Program := do
  let g ← Tool.options []
  if g.operands = [] then Tool.missingOperand
  let spans := g.operands.map readSpan?
  let wrong := (g.operands.zip spans).filter (·.2.isNone)
  if wrong ≠ [] then
    for (text, _) in wrong do
      Tool.warn ("invalid time interval " ++ Quoting.plain text)
    Tool.hint 1
  Tool.pass (spans.foldl (fun n span? => n + span?.getD 0) 0)

def timeout : Program := do
  let g ← Tool.options
    [.valued 'k' "kill-after", .valued 's' "signal", .flag 'v' "verbose",
      .named '\x03' "preserve-status", .named '\x04' "foreground"] 125 false
  let i ← Tool.invocation
  let signal ← match g.value? 's' with
    | none => pure (Signal.ofNumber 15)
    | some name =>
      match Signal.read? name with
      | some number => pure (Signal.ofNumber number)
      | none => Tool.failWithHint 125 (Quoting.plain name ++ ": invalid signal")
  match g.operands with
  | [] => Tool.missingOperand 125
  | [span] => Tool.failWithHint 125 ("missing operand after " ++ Quoting.plain span)
  | span :: argv =>
    match readSpan? span with
    | none => Tool.failWithHint 125 ("invalid time interval " ++ Quoting.plain span)
    | some nanoseconds =>
      let session := (← get).session
      let limit : Timestamp := ⟨session.files.now.nanoseconds + nanoseconds⟩
      let outer? := session.deadline?
      let isFirst : Bool := nanoseconds ≠ 0 && (match outer? with
        | some outer => limit < outer
        | none => true)
      Tool.alterSession fun s => { s with deadline? := if isFirst then some limit else outer? }
      let result ← Tool.start i.descriptors i.environment argv
      Tool.alterSession fun s => { s with deadline? := outer? }
      match result with
      | .ok .expired =>
        if !isFirst then throw .expired
        if g.has 'v' then
          Tool.warn ("sending signal " ++ signal.name ++ " to command " ++
            Quoting.plain (argv.headD ""))
        if signal.number = 9 then endAs (.killed 0 9)
        else Tool.exit (if g.has '\x03' then 128 + signal.number else 124)
      | .ok (.killed _ number) => Tool.exit (128 + number)
      | .ok ending => throw ending
      | .error number =>
        Tool.fail (if number = .noEntry then 127 else 126)
          ("failed to run command " ++ Quoting.plain (argv.headD "") ++ ": " ++ number.text)

def nice : Program := do
  let i ← Tool.invocation
  let args := i.args.map fun arg =>
    match arg.toList with
    | '-' :: digits@(c :: _) => if c.isDigit then "-n" ++ String.ofList digits else arg
    | _ => arg
  let g ← withReader (fun i => { i with args := args })
    (Tool.options [.valued 'n' "adjustment"] 125 false)
  match g.operands with
  | [] =>
    if g.has 'n' then Tool.failWithHint 125 "a command must be given with an adjustment"
    Tool.print "0\n"
  | argv =>
    become i.environment argv Quoting.plain

def nohup : Program := do
  let g ← Tool.options [] 125 false
  let i ← Tool.invocation
  match g.operands with
  | [] => Tool.missingOperand 125
  | argv =>
    become i.environment argv fun name => "failed to run command " ++ Quoting.plain name

/-- Run a program with another kind of buffers. -/
def stdbuf : Program := do
  let g ← Tool.options [.valued 'i' "input", .valued 'o' "output", .valued 'e' "error"] 125 false
  let i ← Tool.invocation
  match g.operands with
  | [] => Tool.missingOperand 125
  | argv =>
    if g.options = [] then
      Tool.failWithHint 125 "you must specify a buffering mode option"
    become i.environment argv fun name => "failed to run command " ++ Quoting.plain name

def setsid : Program := do
  let g ← Tool.options [.flag 'c' "ctty", .flag 'f' "fork", .flag 'w' "wait"] 1 false
  let i ← Tool.invocation
  match g.operands with
  | [] => Tool.fail 1 "no command specified"
  | argv => become i.environment argv fun name => "failed to execute " ++ name

/-- The words of a text, and for each the number of its line. Blanks end words, quotes and
backslashes keep them together. -/
structure WordReading where
  words : List (Octets × Nat) := []
  current? : Option (List Char) := none
  quote? : Option Char := none
  line : Nat := 1
  /-- The line goes on behind its end, since a blank stands there. -/
  previous : Char := '\n'

/-- Read one more character of the words. `whole` keeps lines together. -/
def WordReading.step (whole : Bool) (joinsLines : Bool) (r : WordReading) (c : Char) :
    WordReading :=
  let add (c : Char) : WordReading :=
    { r with current? := some (c :: r.current?.getD []), previous := c }
  let finish : WordReading := match r.current? with
    | some word => { r with
        words := (String.ofList word.reverse, r.line) :: r.words, current? := none }
    | none => r
  match r.quote? with
  | some '\\' => { add c with quote? := none }
  | some q => if c = q then { r with quote? := none, previous := c } else add c
  | none =>
    if c = '\\' then
      { r with quote? := some '\\', current? := some (r.current?.getD []) }
    else if c = '\'' || c = '"' then
      { r with quote? := some c, current? := some (r.current?.getD []) }
    else if c = '\n' then
      let goesOn := joinsLines && (r.previous = ' ' || r.previous = '\t')
      { finish with line := if goesOn then r.line else r.line + 1, previous := c }
    else if whole then
      if r.current?.isNone && (c = ' ' || c = '\t') then r else add c
    else if c = ' ' || c = '\t' then { finish with previous := c }
    else add c

/-- Groups of neighbours of at most so many. `fuel` bounds the length. -/
def chunks {α : Type} (n : Nat) : Nat → List α → List (List α)
  | 0, _ => []
  | fuel + 1, xs => if xs.isEmpty then [] else xs.take n :: chunks n fuel (xs.drop n)

/-- Run a program for words from the standard input. -/
def xargs : Program := do
  let i ← Tool.invocation
  let g ← Tool.options
    [.flag '0' "null", .valued 'a' "arg-file", .valued 'd' "delimiter", .valued 'E',
      { key := 'e', long := "eof", takes := .perhaps }, .valued 'I',
      { key := 'i', long := "replace", takes := .perhaps }, .valued 'L',
      { key := 'l', long := "max-lines", takes := .perhaps }, .valued 'n' "max-args",
      .valued 'P' "max-procs", .flag 'p' "interactive", .flag 'r' "no-run-if-empty",
      .valued 's' "max-chars", .flag 't' "verbose", .flag 'x' "exit",
      .flag 'o' "open-tty"] 1 false "GNU findutils) 4.9.0"
  let number (key : Char) : Tool (Option Nat) := do
    match g.value? key with
    | none => return none
    | some text =>
      match natural? text.toList with
      | some 0 => if key = 'P' then return some 0 else
          Tool.fail 1 ("value " ++ text ++ " for -" ++ String.ofList [key] ++
            " option should be >= 1")
      | some n => return some n
      | none =>
        if text = "" && key = 'l' then return some 1
        else Tool.fail 1 ("invalid number \"" ++ text ++ "\" for -" ++ String.ofList [key] ++
          " option")
  let replaced? := match g.last? ['I', 'i'] with
    | some 'I' => g.value? 'I'
    | some _ => some (match g.value? 'i' with
        | some "" => "\x7b\x7d"
        | some text => text
        | none => "\x7b\x7d")
    | none => none
  let lines? := (← number 'L').or (← number 'l')
  let count? ← number 'n'
  let room := (← number 's').getD 131072
  let input ← match g.value? 'a' with
    | none => Tool.readInput
    | some path =>
      match ← Tool.readInputFile path with
      | .ok bytes => pure (.ok bytes)
      | .error number =>
        Tool.fail 1 ("Cannot open input file " ++ Quoting.plain path ++ ": " ++ number.text)
  let text := match input with
    | .ok bytes => Octets.ofArray bytes
    | .error _ => ""
  let delimiter? : Option Char := match g.value? 'd' with
    | some text =>
      match text.toList with
      | ['\\', 'n'] => some '\n'
      | ['\\', 't'] => some '\t'
      | ['\\', '0'] => some '\x00'
      | c :: _ => some c
      | [] => none
    | none => if g.has '0' then some '\x00' else none
  let (words, unfinished?) : List (Octets × Nat) × Option Char := match delimiter? with
    | some d =>
      let parts := text.splitOn (String.ofList [d])
      let parts := if parts.getLast? = some "" then parts.dropLast else parts
      (parts.zip (List.range parts.length), none)
    | none =>
      let r := text.toList.foldl (WordReading.step replaced?.isSome lines?.isSome) {}
      let last := match r.current? with
        | some word => [(String.ofList word.reverse, r.line)]
        | none => []
      (r.words.reverse ++ last, r.quote?.filter (· ≠ '\\'))
  let words := match g.last? ['E', 'e'] with
    | none => words
    | some key =>
      match g.value? key with
      | some "" => words
      | some mark => words.takeWhile (·.1 ≠ mark)
      | none => words
  let command := if g.operands = [] then ["echo"] else g.operands
  let fixed := command.foldl (fun n w => n + w.length + 1) 0
  let batches : List (List Octets) := match replaced?, lines? with
    | some mark, _ => words.map fun (word, _) =>
        command.headD "" :: (command.drop 1).map fun arg => word.intercalate (arg.splitOn mark)
    | none, some n =>
      let numbers := (words.map (·.2)).eraseDups
      (chunks n (numbers.length + 1) numbers).map fun group =>
        command ++ (words.filter fun (_, line) => group.contains line).map (·.1)
    | none, none =>
      let all := words.map (·.1)
      let groups := match count? with
        | some n => chunks n (all.length + 1) all
        | none =>
          let (done, current, _) := all.foldl
            (fun ((done, current, size) : List (List Octets) × List Octets × Nat) word =>
              let next := size + word.length + 1
              if next ≤ room || current = [] then (done, word :: current, next)
              else (current.reverse :: done, [word], fixed + word.length + 1)) ([], [], fixed)
          (if current = [] then done else current.reverse :: done).reverse
      if groups = [] then (if g.has 'r' then [] else [command]) else groups.map (command ++ ·)
  let (input, session) := (← get).session.addChannel .nothing
  Tool.alterSession fun _ => session
  for argv in batches do
    if g.has 't' then Tool.printError (" ".intercalate (argv.map Quoting.asNeeded))
    match ← Tool.start ((0, input) :: i.descriptors) i.environment argv with
    | .error number =>
      Tool.fail (if number = .noEntry then 127 else 126)
        (argv.headD "" ++ ": " ++ number.text)
    | .ok (.exited 0) => pure ()
    | .ok (.exited 255) =>
      Tool.fail 124 (argv.headD "" ++ ": exited with status 255; aborting")
    | .ok (.exited _) => Tool.mark 123
    | .ok (.killed _ signal) =>
      Tool.fail 125 (argv.headD "" ++ ": terminated by signal " ++ toString signal)
    | .ok other => throw other
  match unfinished? with
  | some quote =>
    Tool.fail 1 ("unmatched " ++ (if quote = '"' then "double" else "single") ++
      " quote; by default quotes are special to xargs unless you use the -0 option")
  | none => pure ()

end Launchpad.Machine.Programs
