import Launchpad.Machine.Programs.Finding.Expression
import Launchpad.Machine.Programs.Listing
import Launchpad.Machine.Programs.Search

/-!
Finding files: the trees below the given paths are walked, and an expression is evaluated for
everything in them.
-/

namespace Launchpad.Machine.Programs

namespace Finding

open Text (Glyph)

structure Visit where
  /-- The path at which the walk began. -/
  top : Octets
  path : Octets
  depth : Nat
  location : Location
  entry : Entry

structure Progress where
  /-- What is below the directory is left out. -/
  pruned : Bool := false
  isOver : Bool := false
  /-- What is kept for programs that run once, last paths first. -/
  kept : List (Nat × Octets) := []

abbrev Finder := StateT Progress Tool

def kindOf (e : Entry) : Char :=
  match e.node with
  | .file _ => 'f'
  | .directory => 'd'
  | .link _ => 'l'
  | .device _ => 'c'

def fitsText (ignoresCase : Bool) (pattern text : Octets) : Bool :=
  if ignoresCase then fitsName (pattern.map Char.toLower) (text.map Char.toLower)
  else fitsName pattern text

def Visit.name (v : Visit) : Octets := lastPart v.path

def Condition.holds (files : FileSystem) (v : Visit) : Condition → Bool
  | .name ignoresCase pattern => fitsText ignoresCase pattern v.name
  | .path ignoresCase pattern => fitsText ignoresCase pattern v.path
  | .target ignoresCase pattern =>
    match v.entry.node with
    | .link t => fitsText ignoresCase pattern (Octets.ofPath t)
    | _ => false
  | .regex ignoresCase pattern =>
    let signs := (Octets.glyphs v.path).toArray
    let subject : Regex.Subject := { signs := signs, ignoreCase := ignoresCase, manyLines := false }
    (Regex.matchAt? subject pattern 0).any fun m => m.stop = signs.size
  | .kind letters => letters.contains (kindOf v.entry)
  | .empty =>
    match v.entry.node with
    | .file content => content.isEmpty
    | .directory => (files.children v.location).isEmpty
    | _ => false
  | .size amount unit => amount.fits ((sizeOf v.entry + unit - 1) / unit : Nat)
  | .newer than => than < v.entry.modified
  | .age amount seconds roundsUp =>
    let age := files.now.nanoseconds - v.entry.modified.nanoseconds
    let unit : Int := seconds * 1000000000
    amount.fits (if roundsUp then (age + unit - 1) / unit else age / unit)
  | .mode test bits =>
    match test with
    | .whole => v.entry.mode = bits
    | .all => v.entry.mode &&& bits = bits
    | .any => bits = 0 || v.entry.mode &&& bits ≠ 0
  | .names amount => amount.fits (namesOf files v.location v.entry : Nat)
  | .serial amount => amount.fits (v.entry.serial : Nat)
  | .right bit => v.entry.mode.testBit bit
  | .owned byUser => byUser

/-- The path of what was found below the one at which the walk began. -/
def Visit.below (v : Visit) : Octets :=
  if v.depth = 0 then "" else ((v.path.drop v.top.length).dropWhile (· = '/')).toString

def Visit.holder (v : Visit) : Octets :=
  let cs := withoutSlashes v.path.toList
  if cs.contains '/' then holderOf v.path else if v.path.startsWith "/" then "" else "."

def Visit.value? (files : FileSystem) (v : Visit) (c : Char) : Option Octets :=
  match c with
  | 'p' => some v.path
  | 'f' => some v.name
  | 'h' => some v.holder
  | 'P' => some v.below
  | 'H' => some v.top
  | 'd' => some (toString v.depth)
  | 'y' => some (String.ofList [kindOf v.entry])
  | 'Y' => some (String.ofList [kindOf v.entry])
  | 'm' => some (String.ofList (Nat.toDigits 8 v.entry.mode))
  | 'M' => some (modeText v.entry)
  | 'l' =>
    match v.entry.node with
    | .link target => some (Octets.ofPath target)
    | _ => some ""
  | 'n' => some (toString (namesOf files v.location v.entry))
  | 'k' => some (toString (blocksOf v.entry / 2))
  | 't' => some ((CivilTime.ofTimestamp v.entry.modified).format "%a %b %e %H:%M:%S.%N0 %Y")
  | c => if "sbiuUgG".toList.contains c then statValue files v.path v.location v.entry c else none

/-- Fill in a format. Time stamps have a second letter for one of their parts. `fuel` bounds the
length. -/
def fill (files : FileSystem) (v : Visit) : Nat → List Char → Tool (List Octets)
  | 0, _ => return []
  | fuel + 1, cs => do
    match cs with
    | [] => return []
    | '%' :: '%' :: rest => return "%" :: (← fill files v fuel rest)
    | '%' :: rest =>
      let flags := rest.takeWhile fun c => c.isDigit || c = '-' || c = '#' || c = ' ' || c = '+'
      let width := (natural? (flags.filter Char.isDigit)).getD 0
      let pad (text : Octets) : Octets :=
        if flags.contains '-' then padRight width text else padLeft width text
      match rest.drop flags.length with
      | [] => Tool.fail 1 "error: % at end of format string"
      | c :: behind =>
        if ['A', 'B', 'C', 'T'].contains c && behind ≠ [] then
          let letter := behind.headD ' '
          let t := v.entry.modified
          let fraction := padLeft 9 (toString (t.subsecond.toNat)) '0'
          let text := if letter = '@' then toString t.seconds ++ "." ++ fraction ++ "0"
            else if letter = 'S' then
              (CivilTime.ofTimestamp t).format "%S" ++ "." ++ fraction ++ "0"
            else if letter = '+' then
              (CivilTime.ofTimestamp t).format "%Y-%m-%d+%H:%M:%S" ++ "." ++ fraction ++ "0"
            else (CivilTime.ofTimestamp t).format (String.ofList ['%', letter])
          return pad text :: (← fill files v fuel (behind.drop 1))
        else match v.value? files c with
          | some text => return pad text :: (← fill files v fuel behind)
          | none =>
            Tool.warn ("warning: unrecognized format directive \x60%" ++ String.ofList [c] ++ "'")
            return String.ofList ('%' :: flags ++ [c]) :: (← fill files v fuel behind)
    | '\\' :: 'c' :: _ => return []
    | '\\' :: rest =>
      let (out, behind) := readEscape rest
      return String.ofList out :: (← fill files v fuel behind)
    | c :: rest => return String.ofList [c] :: (← fill files v fuel rest)

/-- Run a program for a path; the answer tells whether it succeeded. -/
def runFor (argv : List Octets) (v : Visit) (inDirectory : Bool) : Tool Bool := do
  let i ← Tool.invocation
  let path := if inDirectory then "./" ++ v.name else v.path
  let argv := argv.map fun arg => path.intercalate (arg.splitOn "\x7b\x7d")
  let here := (← Tool.files).here
  if inDirectory then
    let place := if v.depth = 0 && v.location = here then here else v.location.dropLast
    Tool.alterSession fun s => { s with files := { s.files with here := place } }
  let result ← Tool.start i.descriptors i.environment argv
  Tool.alterSession fun s => { s with files := { s.files with here := here } }
  match result with
  | .ok (.exited status) => return status = 0
  | .ok (.killed _ _) => return false
  | .ok other => throw other
  | .error number =>
    Tool.warn (Quoting.plain (argv.headD "") ++ ": " ++ number.text)
    return false

def Action.perform (v : Visit) : Action → Finder Bool
  | .print lineEnd => do
    StateT.lift (Tool.print (v.path ++ lineEnd))
    return true
  | .format text => do
    let files ← StateT.lift Tool.files
    let pieces ← StateT.lift (fill files v (text.length + 1) text.toList)
    StateT.lift (Tool.print (String.join pieces))
    return true
  | .run argv inDirectory => StateT.lift (runFor argv v inDirectory)
  | .runLater number => do
    modify fun p => { p with kept := (number, v.path) :: p.kept }
    return true
  | .delete => do
    if v.path = "." then return true
    let change (f : FileSystem) : Except IoError FileSystem :=
      if v.entry.isDirectory then f.removeDirectory (Octets.path v.path)
      else f.unlink (Octets.path v.path)
    match ← StateT.lift (Tool.change change) with
    | .ok () => return true
    | .error number =>
      StateT.lift
        (Tool.complain 1 ("cannot delete " ++ Quoting.plain v.path ++ ": " ++ number.text))
      return false
  | .prune => do
    modify fun p => { p with pruned := true }
    return true
  | .quit => do
    modify fun p => { p with isOver := true }
    return true

def Expression.eval (v : Visit) : Expression → Finder Bool
  | .const b => return b
  | .condition c => return c.holds (← StateT.lift Tool.files) v
  | .action a => do
    if (← get).isOver then return false
    a.perform v
  | .both a b => do
    if ← a.eval v then b.eval v else return false
  | .either a b => do
    if ← a.eval v then return true else b.eval v
  | .not a => return !(← a.eval v)
  | .sequence a b => do
    let _ ← a.eval v
    b.eval v

/-- Evaluate an expression for a path and for everything below it. `fuel` bounds the depth. -/
def walk (s : Settings) (e : Expression) (top : Octets) : Nat → Nat → Octets → Finder Unit
  | 0, _, _ => return ()
  | fuel + 1, depth, path => do
    if (← get).isOver then return ()
    let own ← StateT.lift (ownEntryOf path)
    let found ← if s.follows then do
        match ← StateT.lift (entryOf path) with
        | .ok found => pure (.ok found)
        | .error _ => pure own
      else pure own
    match found with
    | .error number =>
      StateT.lift (Tool.complain 1 (Quoting.plain path ++ ": " ++ number.text))
    | .ok (l, entry) =>
      let visit : Visit := ⟨top, path, depth, l, entry⟩
      let counts := depth ≥ s.least && s.greatest?.all (depth ≤ ·)
      modify fun p => { p with pruned := false }
      if counts && !s.depthFirst then
        let _ ← e.eval visit
      let isClosed := (← get).pruned && !s.depthFirst
      if entry.isDirectory && !isClosed && s.greatest?.all (depth < ·) && !(← get).isOver then
        if !entry.readable then
          StateT.lift (Tool.complain 1 (Quoting.plain path ++ ": " ++ Errno.accessDenied.text))
        else
          let names := (← StateT.lift Tool.files).children l
          for name in names do
            walk s e top fuel (depth + 1) (below path (Octets.ofGlyphs name))
      if counts && s.depthFirst && !(← get).isOver then
        let _ ← e.eval visit

def beginsExpression (arg : Octets) : Bool :=
  (arg.startsWith "-" && arg.length > 1) || arg = "(" || arg = "!" || arg = ")" || arg = ","

end Finding

open Finding

def find : Program := do
  let i ← Tool.invocation
  if i.args = ["--version"] || i.args = ["-version"] then
    Tool.print "find (GNU findutils) 4.9.0\n"
    Tool.exit 0
  let leading := i.args.takeWhile fun arg =>
    ["-H", "-L", "-P"].contains arg || arg.startsWith "-O"
  let rest := i.args.drop leading.length
  let rest := if rest.head? = some "--" then rest.drop 1 else rest
  let paths := rest.takeWhile fun arg => !beginsExpression arg
  let links := leading.filter fun arg => !arg.startsWith "-O"
  let start : Reading :=
    { rest := rest.drop paths.length, settings := { follows := links.getLast? = some "-L" } }
  let (expression, reading) ← Reader.whole.run start
  let settings := reading.settings
  let whole := if expression.acts then expression
    else .both expression (.action (.print "\n"))
  let depth := (← Tool.files).entries.length + 2
  let search : Finder Unit := do
    for path in (if paths.isEmpty then ["."] else paths) do
      walk settings whole path depth 0 path
  let (_, progress) ← search.run {}
  for (number, argv) in (List.range settings.batches.length).zip settings.batches do
    let kept := (progress.kept.filter (·.1 = number)).reverse.map (·.2)
    if !kept.isEmpty then
      match ← Tool.start i.descriptors i.environment (argv ++ kept) with
      | .ok (.exited 0) => pure ()
      | .ok (.exited _) => Tool.markAtLeast 1
      | .ok (.killed _ _) => Tool.markAtLeast 1
      | .ok other => throw other
      | .error number =>
        Tool.complain 1 (Quoting.plain (argv.headD "") ++ ": " ++ number.text)

end Launchpad.Machine.Programs
