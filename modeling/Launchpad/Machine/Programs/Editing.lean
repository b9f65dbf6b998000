import Launchpad.Machine.Programs.Editing.Script
import Launchpad.Machine.Programs.Files

/-!
The stream editor: a script is run for each line of the input. What it works on is the line, a
second text that lasts from line to line, and texts that wait for the end of the line's turn.
-/

namespace Launchpad.Machine.Programs.Editing

open Regex (Pattern Subject Match)
open Text (Glyph)

structure InputLine where
  text : Octets
  /-- The line has its end. -/
  isClosed : Bool
  /-- The number of its file, and the name. -/
  file : Nat
  name : Octets
  deriving Inhabited

inductive RangeState where
  | idle
  | untilLine (number : Nat)
  | untilAddress
  deriving DecidableEq, Repr, Inhabited

/-- What waits for the end of a line's turn. -/
inductive Queued where
  | text (text : Octets)
  | file (path : Octets)
  | line (text : Octets) (isClosed : Bool)
  deriving Inhabited

structure Settings where
  program : Array Instruction
  labels : List (Octets × Nat)
  quiet : Bool
  /-- Files do not follow each other as one text. -/
  separate : Bool
  inPlace? : Option Octets
  lineEnd : Octets
  width : Nat

structure State where
  space : Octets := ""
  held : Octets := ""
  number : Nat := 0
  isClosed : Bool := true
  file : Nat := 0
  name : Octets := "-"
  input : List InputLine
  queue : List Queued := []
  /-- A substitution was done since the last line was read. -/
  done : Bool := false
  ranges : Array RangeState
  last? : Option Search := none
  /-- The lines that are left of files which are read line by line. -/
  sources : List (Octets × List Octets) := []
  /-- The channels of files that are written. -/
  outputs : List (Octets × Nat)
  /-- The outputs that lack the end of their last line; the empty name stands for the standard
  output. -/
  unclosed : List Octets := []
  /-- What goes into the file that is edited, last texts first. -/
  collected : List Octets := []

abbrev Editor := StateT State Tool

/-- Write to the standard output, or into the file that is edited. -/
def put (c : Settings) (text : Octets) : Editor Unit := do
  let s ← get
  if c.inPlace?.isSome && s.file > 0 then set { s with collected := text :: s.collected }
  else StateT.lift (Tool.print text)

/-- Write a text to an output, behind the end of its last line if that is missing. -/
def emit (c : Settings) (target : Octets) (text : Octets) (isClosed : Bool) : Editor Unit := do
  let s ← get
  let text := (if s.unclosed.contains target then c.lineEnd else "") ++ text ++
    (if isClosed then c.lineEnd else "")
  let others := s.unclosed.filter (· ≠ target)
  set { s with unclosed := if isClosed then others else target :: others }
  if target = "" then put c text
  else if target = "/dev/stdout" then StateT.lift (Tool.print text)
  else if target = "/dev/stderr" then StateT.lift (Tool.writeBytes 2 (Octets.array text))
  else match s.outputs.lookup target with
    | some channel => StateT.lift (Tool.alterSession (·.write channel (Octets.array text)))
    | none => return ()

/-- Write a text that holds the ends of its lines. -/
def emitRaw (c : Settings) (text : Octets) : Editor Unit := do
  let s ← get
  set { s with unclosed := s.unclosed.filter (· ≠ "") }
  put c ((if s.unclosed.contains "" then c.lineEnd else "") ++ text)

/-- Write what has waited for the end of the line's turn. -/
def release (c : Settings) : Editor Unit := do
  let queue := (← get).queue
  modify fun s => { s with queue := [] }
  for q in queue.reverse do
    match q with
    | .text text => emitRaw c text
    | .line text isClosed => emit c "" text isClosed
    | .file path =>
      match ← StateT.lift (Tool.load (if path = "/dev/stdin" then "-" else path)) with
      | .ok text => if text ≠ "" then emitRaw c text
      | .error _ => pure ()

def finishFile (c : Settings) : Editor Unit := do
  let s ← get
  match c.inPlace? with
  | none => return ()
  | some ending =>
    if s.file = 0 then return ()
    let text := String.join s.collected.reverse
    set { s with collected := [], unclosed := s.unclosed.filter (· ≠ "") }
    match ← StateT.lift (entryOf s.name) with
    | .error _ => return ()
    | .ok (_, e) =>
      let p := Octets.path s.name
      if ending = "" then
        let _ ← StateT.lift (Tool.change (·.unlink p))
      else
        let base := lastPart s.name
        let backup := if ending.toList.contains '*' then base.intercalate (ending.splitOn "*")
          else base ++ ending
        let backup := if backup.toList.contains '/' || base = s.name then backup
          else below (holderOf s.name) backup
        let _ ← StateT.lift (Tool.change (·.rename p (Octets.path backup)))
      let _ ← StateT.lift (Tool.writeFile s.name (Octets.array text) (e.mode &&& 0o777))
      let _ ← StateT.lift (Tool.change (·.setMode p e.mode))

/-- Whether the current line is the last one. -/
def isLast (c : Settings) : Editor Bool := do
  let s ← get
  match s.input with
  | [] => return true
  | next :: _ => return c.separate && next.file ≠ s.file

def hasNext : Editor Bool := return !(← get).input.isEmpty

/-- Read the next line, behind the current text if asked to. -/
def readNext (c : Settings) (joined : Bool) : Editor Unit := do
  release c
  let s ← get
  match s.input with
  | [] => return ()
  | line :: rest =>
    let isNew := line.file ≠ s.file
    if isNew then finishFile c
    modify fun s => { s with
      space := if joined then s.space ++ c.lineEnd ++ line.text else line.text
      input := rest, isClosed := line.isClosed, file := line.file, name := line.name
      number := if isNew && c.separate then 1 else s.number + 1 }

def printSpace (c : Settings) : Editor Unit := do
  let s ← get
  emit c "" s.space s.isClosed

/-- The pattern that is meant, which from now on is the last one that was used. -/
def patternOf (search : Search) : Editor (Option (Search × Pattern)) := do
  match search.pattern? with
  | some p =>
    modify fun s => { s with last? := some search }
    return some (search, p)
  | none =>
    match (← get).last? with
    | some last => return last.pattern?.map fun p => (last, p)
    | none => StateT.lift (Tool.fail 1 "no previous regular expression")

def subjectOf (search : Search) (text : Octets) : Subject :=
  { signs := (Octets.glyphs text).toArray, ignoreCase := search.ignoresCase
    manyLines := search.manyLines }

def fitsAddress (c : Settings) (a : Address) : Editor Bool := do
  let s ← get
  match a with
  | .line n => return s.number = n
  | .last => isLast c
  | .every first step =>
    return s.number ≥ first && (if step = 0 then s.number = first
      else (s.number - first) % step = 0)
  | .fitting search =>
    match ← patternOf search with
    | some (search, p) => return (Regex.search? (subjectOf search s.space) p 0).isSome
    | none => return false

/-- Note how far the range of a command has come. -/
def setRange (k : Nat) (r : RangeState) : Editor Unit :=
  modify fun s => { s with ranges := s.ranges.setIfInBounds k r }

/-- Whether a command is for the current line. -/
def isSelected (c : Settings) (k : Nat) (selection : Selection) : Editor Bool := do
  let own : Bool ← match selection.first?, selection.until? with
    | none, _ => pure true
    | some a, none => fitsAddress c a
    | some a, some e =>
      let s ← get
      let number := s.number
      match (s.ranges[k]?).getD .idle with
      | .idle =>
        if !(← fitsAddress c a) then pure false
        else
          match e with
          | .at (.line n) => if n > number then setRange k (.untilLine n)
          | .after n => if n > 0 then setRange k (.untilLine (number + n))
          | .multiple n =>
            if n > 0 && number % n ≠ 0 then setRange k (.untilLine ((number / n + 1) * n))
          | .at .last => if !(← isLast c) then setRange k .untilAddress
          | .at _ => setRange k .untilAddress
          pure true
      | .untilLine n =>
        if number ≥ n then setRange k .idle
        pure (number ≤ n)
      | .untilAddress =>
        match e with
        | .at a => if ← fitsAddress c a then setRange k .idle
        | _ => pure ()
        pure true
  return own ≠ selection.negated

def changed (lasting : CaseChange) (once? : Option CaseChange) (text : Octets) : Octets :=
  let all := match lasting with
    | .upper => text.toList.map Char.toUpper
    | .lower => text.toList.map Char.toLower
    | _ => text.toList
  match once?, all with
  | some .nextUpper, first :: rest => String.ofList (first.toUpper :: rest)
  | some .nextLower, first :: rest => String.ofList (first.toLower :: rest)
  | _, all => String.ofList all

def replacement (signs : Array Glyph) (m : Match) (parts : List Part) : Octets :=
  let (out, _, _) := parts.foldl
    (fun ((out, lasting, once?) : List Octets × CaseChange × Option CaseChange) part =>
      let add (text : Octets) : List Octets × CaseChange × Option CaseChange :=
        (changed lasting once? text :: out, lasting, if text = "" then once? else none)
      match part with
      | .text text => add text
      | .group k =>
        match m.group? k with
        | some (start, stop) => add (Octets.ofGlyphs (signs.extract start stop).toList)
        | none => (out, lasting, once?)
      | .change .nextUpper => (out, lasting, some .nextUpper)
      | .change .nextLower => (out, lasting, some .nextLower)
      | .change lasting => (out, lasting, none)) ([], .none, none)
  String.join out.reverse

/-- Substitute in a text; none when nothing was found. -/
def substituted? (search : Search) (p : Pattern) (own : Substitution) (text : Octets) :
    Option Octets :=
  let subject := subjectOf search text
  let found := if own.number = 1 && !own.all then (Regex.search? subject p 0).toList
    else Regex.allMatches subject p
  let chosen := (found.drop (own.number - 1))
  let chosen := if own.all then chosen else chosen.take 1
  if chosen.isEmpty then none
  else
    let (out, place) := chosen.foldl (fun (out, place) m =>
      (replacement subject.signs m own.parts ::
        Octets.ofGlyphs (subject.signs.extract place m.start).toList :: out, m.stop))
      (([] : List Octets), 0)
    let behind := Octets.ofGlyphs (subject.signs.extract place subject.signs.size).toList
    some (String.join (behind :: out).reverse)

/-- The current text with everything that cannot be seen written by escapes, in lines that are not
too wide. -/
def listed (width : Nat) (text : Octets) : Octets :=
  let shown (c : Char) : Octets :=
    match c with
    | '\\' => "\\\\"
    | '\x07' => "\\a"
    | '\x08' => "\\b"
    | '\x0c' => "\\f"
    | '\n' => "\\n"
    | '\r' => "\\r"
    | '\t' => "\\t"
    | '\x0b' => "\\v"
    | c =>
      if ' ' ≤ c && c ≤ '~' then String.ofList [c]
      else "\\" ++ String.ofList ([c.toNat / 64, c.toNat / 8 % 8, c.toNat % 8].map fun d =>
        Char.ofNat ('0'.toNat + d))
  let (out, _) := text.toList.foldl (fun (out, column) c =>
    let piece := shown c
    if width > 1 && column + piece.length > width - 1 then
      (piece :: "\\\n" :: out, piece.length)
    else (piece :: out, column + piece.length)) (([] : List Octets), 0)
  String.join ("$\n" :: out).reverse

inductive Flow where
  | goOn (place : Nat)
  /-- The line's turn is over, and it is printed if lines are. -/
  | finished
  /-- The line's turn is over, and it is not printed. -/
  | dropped
  /-- The script starts again with the text as it is. -/
  | again
  | stopped (status : Nat)
  deriving Inhabited

def firstLine (lineEnd text : Octets) : Octets × Option Octets :=
  match text.splitOn lineEnd with
  | first :: rest => (first, if rest = [] then none else some (lineEnd.intercalate rest))
  | [] => ("", none)

def act (c : Settings) (k : Nat) (i : Instruction) : Editor Flow := do
  let s ← get
  let next : Flow := .goOn (k + 1)
  let jump (target? : Option Octets) : Flow :=
    match target? with
    | none => .goOn c.program.size
    | some name => .goOn ((c.labels.lookup name).getD c.program.size)
  match i.action with
  | .openBlock _ => return next
  | .nothing => return next
  | .number =>
    emitRaw c (toString s.number ++ "\n")
    return next
  | .append text =>
    modify fun s => { s with queue := .text text :: s.queue }
    return next
  | .insert text =>
    emitRaw c text
    return next
  | .change text =>
    let isOver := (s.ranges[k]?).getD .idle = .idle
    if i.selection.until?.isNone || isOver then emitRaw c text
    return .dropped
  | .jump target? => return jump target?
  | .jumpIfDone target? =>
    if s.done then
      set { s with done := false }
      return jump target?
    else return next
  | .jumpUnlessDone target? =>
    if s.done then
      set { s with done := false }
      return next
    else return jump target?
  | .delete => return .dropped
  | .deleteLine =>
    match firstLine c.lineEnd s.space with
    | (_, none) => return .dropped
    | (_, some rest) =>
      set { s with space := rest }
      return .again
  | .fileName =>
    emitRaw c (s.name ++ "\n")
    return next
  | .get =>
    set { s with space := s.held }
    return next
  | .getMore =>
    set { s with space := s.space ++ c.lineEnd ++ s.held }
    return next
  | .hold =>
    set { s with held := s.space }
    return next
  | .holdMore =>
    set { s with held := s.held ++ c.lineEnd ++ s.space }
    return next
  | .list width? =>
    emitRaw c (listed (width?.getD c.width) s.space)
    return next
  | .next =>
    if !(← hasNext) then return .finished
    if !c.quiet then printSpace c
    readNext c false
    return next
  | .nextMore =>
    if !(← hasNext) then return .finished
    readNext c true
    return next
  | .print =>
    printSpace c
    return next
  | .printLine =>
    emit c "" (firstLine c.lineEnd s.space).1 true
    return next
  | .quit status =>
    if !c.quiet then printSpace c
    release c
    return .stopped status
  | .quitSilently status => return .stopped status
  | .readFile path =>
    modify fun s => { s with queue := .file path :: s.queue }
    return next
  | .readLine path =>
    let lines ← match s.sources.lookup path with
      | some lines => pure lines
      | none =>
        match ← StateT.lift (Tool.load path) with
        | .ok text => pure (linesOf text).1
        | .error _ => pure []
    let queue := match lines with
      | line :: _ => .line line true :: s.queue
      | [] => s.queue
    set { s with
      queue := queue
      sources := (path, lines.drop 1) :: s.sources.filter (·.1 ≠ path) }
    return next
  | .substitute own =>
    match ← patternOf own.search with
    | none => return next
    | some (search, p) =>
      let search := { search with
        ignoresCase := search.ignoresCase || own.search.ignoresCase
        manyLines := search.manyLines || own.search.manyLines }
      match substituted? search p own s.space with
      | none => return next
      | some text =>
        modify fun s => { s with space := text, done := true }
        if own.prints then printSpace c
        match own.file? with
        | some path => emit c path text s.isClosed
        | none => pure ()
        return next
  | .write path =>
    emit c path s.space s.isClosed
    return next
  | .writeLine path =>
    emit c path (firstLine c.lineEnd s.space).1 true
    return next
  | .exchange =>
    set { s with space := s.held, held := s.space }
    return next
  | .translate pairs =>
    let signs := (Octets.glyphs s.space).map fun g => (pairs.lookup g).getD g
    set { s with space := Octets.ofGlyphs signs }
    return next
  | .empty =>
    set { s with space := "" }
    return next

/-- Run the script from a place on. `fuel` bounds the number of commands. -/
def runFrom (c : Settings) (place : Nat) : Nat → Editor Nat
  | 0 => return 4
  | fuel + 1 => do
    let nextLine (restart : Bool) : Editor Nat := do
      if restart then runFrom c 0 fuel
      else if ← hasNext then
        readNext c false
        modify fun s => { s with done := false }
        runFrom c 0 fuel
      else
        release c
        return 0
    match c.program[place]? with
    | none =>
      if !c.quiet then printSpace c
      nextLine false
    | some i =>
      if !(← isSelected c place i.selection) then
        match i.action with
        | .openBlock behind => runFrom c behind fuel
        | _ => runFrom c (place + 1) fuel
      else match ← act c place i with
        | .goOn place => runFrom c place fuel
        | .finished =>
          if !c.quiet then printSpace c
          nextLine false
        | .dropped => nextLine false
        | .again =>
          release c
          nextLine true
        | .stopped status => return status

end Editing

open Editing

/-- The lines of the input. A file that cannot be read is left out after a message. -/
def readInputLines (separator : Octets) (inPlace : Bool) (paths : List Octets) :
    Tool (List InputLine) := do
  let parts ← (paths.zip (List.range paths.length)).mapM fun (path, k) => do
    let isDirectory ← if inPlace then namesDirectory path else pure false
    if isDirectory then
      Tool.complain 4 ("couldn't edit " ++ path ++ ": not a regular file")
      return []
    match ← Tool.load path with
    | .error (.closed number) =>
      Tool.complain 2 ("can't read " ++ path ++ ": " ++ number.text)
      return []
    | .error (.unread number) => Tool.fail 4 ("read error on " ++ path ++ ": " ++ number.text)
    | .ok text =>
      let texts := text.splitOn separator
      let isOpen := texts.getLast? ≠ some ""
      let texts := if isOpen then texts else texts.dropLast
      return (texts.zip (List.range texts.length)).map fun (text, j) =>
        { text := text, isClosed := !(isOpen && j + 1 = texts.length), file := k + 1, name := path }
  return parts.flatten

def sed : Program := do
  Tool.hold
  let i ← Tool.invocation
  let g ← Tool.options
    [.flag 'n' "quiet", .flag 'n' "silent", .named '\x03' "debug", .valued 'e' "expression",
      .valued 'f' "file", .named '\x04' "follow-symlinks",
      { key := 'i', long := "in-place", takes := .perhaps }, .valued 'l' "line-length",
      .named '\x05' "posix", .flag 'E' "regexp-extended", .flag 'r', .flag 's' "separate",
      .named '\x06' "sandbox", .flag 'u' "unbuffered", .flag 'z' "null-data"] 1 true "GNU sed) 4.9"
  let usage {α : Type} : Tool α := do
    Tool.printError ("Usage: " ++ i.name ++ " [OPTION]... \x7bscript-only-if-no-other-script\x7d" ++
      " [input-file]...")
    Tool.exit 1
  let given := g.options.filter fun (key, _) => key = 'e' || key = 'f'
  let (sources, operands) ← match given, g.operands with
    | [], [] => usage
    | [], script :: rest => pure ([('e', script)], rest)
    | given, operands => pure (given, operands)
  let texts ← sources.mapM fun (key, text) => do
    if key = 'e' then return text
    else match ← Tool.load text with
      | .ok script => return if script.endsWith "\n" then (script.dropEnd 1).toString else script
      | .error cause => Tool.fail 1 ("couldn't open file " ++ text ++ ": " ++ cause.number.text)
  let script := "\n".intercalate texts
  let extended := g.has 'E' || g.has 'r'
  let name := match sources with
    | [('f', path)] => "file " ++ path ++ " line 1:"
    | sources => "-e expression #" ++ toString sources.length ++ ", char "
  let quiet := g.has 'n' || script = "#n" || script.startsWith "#n\n"
  match (Reader.wholeScript extended script.length).run { rest := script.toList } with
  | .error e =>
    if e.isGlobal then Tool.fail 1 e.text
    else
      let front := (texts.dropLast.map (·.length + 1)).foldl (· + ·) 0
      let place := script.length - e.left - front
      match sources with
      | [('f', _)] => Tool.fail 1 (name ++ " " ++ e.text)
      | _ => Tool.fail 1 (name ++ toString place ++ ": " ++ e.text)
  | .ok ((), r) =>
    let paths := r.instructions.toList.filterMap fun i =>
      match i.action with
      | .write path => some path
      | .writeLine path => some path
      | .substitute own => own.file?
      | _ => none
    let outputs ← paths.eraseDups.mapM fun path => do
      if path = "/dev/stdout" || path = "/dev/stderr" then return (path, 0)
      else match ← Tool.openFile path .writing with
        | .ok channel => return (path, channel)
        | .error number => Tool.fail 4 ("couldn't open file " ++ path ++ ": " ++ number.text)
    let lineEnd : Octets := if g.has 'z' then "\x00" else "\n"
    let input ← readInputLines lineEnd (g.has 'i') (Tool.inputs operands)
    let c : Settings :=
      { program := r.instructions, labels := r.labels, quiet := quiet
        separate := g.has 's' || g.has 'i', inPlace? := g.value? 'i', lineEnd := lineEnd
        width := ((g.value? 'l').bind fun text => natural? text.toList).getD 70 }
    let ranges := r.instructions.map fun i =>
      match i.selection.first? with
      | some (.line 0) => RangeState.untilAddress
      | _ => .idle
    let start : State := { input := input, ranges := ranges, outputs := outputs }
    let whole : Editor Nat := do
      if !(← hasNext) then return 0
      readNext c false
      let status ← runFrom c 0 1000000
      if c.inPlace?.isSome then
        for line in (← get).input do
          let isNew := line.file ≠ (← get).file
          if !isNew then emit c "" line.text line.isClosed
        finishFile c
      return status
    let (status, _) ← whole.run start
    if status ≠ 0 then Tool.mark status

end Launchpad.Machine.Programs
