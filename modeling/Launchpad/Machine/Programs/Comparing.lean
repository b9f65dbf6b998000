import Launchpad.Differences
import Launchpad.Machine.Programs.Dumping
import Launchpad.Machine.Programs.Listing
import Launchpad.Machine.Programs.Search

/-!
Programs that compare files: byte by byte, or line by line. Differences of lines are shown in one of
several forms, alone or with lines around them.
-/

namespace Launchpad.Machine.Programs

namespace Comparing

def hint {α : Type} : Tool α := do
  let name := (← Tool.invocation).name
  Tool.printError (name ++ ": Try '" ++ name ++ " --help' for more information.")
  Tool.exit 2

def failWithHint {α : Type} (text : Octets) : Tool α := do
  Tool.warn text
  hint

def options (choices : List Choice) : Tool Given := do
  let i ← Tool.invocation
  match readOptions (choices ++ Tool.commonChoices) true i.args with
  | .error why => failWithHint why
  | .ok given =>
    match given.last? [Tool.helpKey, Tool.versionKey] with
    | none => return given
    | some key =>
      if key = Tool.helpKey then Tool.print ("Usage: " ++ i.name ++ " [OPTION]...\n")
      else Tool.print (i.name ++ " (GNU diffutils) 3.8\n")
      Tool.exit 0

/-- A byte by its octal digits, filled up by blanks. -/
def octalByteText (c : Char) : Octets :=
  padLeft 3 (String.ofList (Nat.toDigits 8 c.toNat))

def caretByte (c : Char) : Octets :=
  let n := c.toNat
  let plain (n : Nat) : Octets :=
    if n < 32 then "^" ++ String.ofList [Char.ofNat (n + 64)]
    else if n = 127 then "^?"
    else String.ofList [Char.ofNat n]
  if n ≥ 128 then "M-" ++ plain (n - 128) else plain n

def lineEnds (cs : List Char) : Nat := (cs.filter (· = '\n')).length

end Comparing

open Comparing

def cmp : Program := do
  let g ← options
    [.flag 'b' "print-bytes", .flag 'c', .valued 'i' "ignore-initial", .flag 'l' "verbose",
      .valued 'n' "bytes", .flag 's' "quiet", .flag 's' "silent"]
  let number (name text : Octets) : Tool Nat := do
    match measured? text with
    | some n => return n
    | none => failWithHint ("invalid --" ++ name ++ " value '" ++ text ++ "'")
  let (first, second, skips) ← match g.operands with
    | [] => failWithHint ("missing operand after '" ++ (← Tool.invocation).name ++ "'")
    | [a] => pure (a, "-", [])
    | [a, b] => pure (a, b, [])
    | [a, b, c] => pure (a, b, [c])
    | [a, b, c, d] => pure (a, b, [c, d])
    | _ :: _ :: _ :: _ :: e :: _ => failWithHint ("extra operand '" ++ e ++ "'")
  let skips ← match g.value? 'i' with
    | some text => (text.splitOn ":").mapM (number "ignore-initial")
    | none => skips.mapM (number "ignore-initial")
  let limit? ← (g.value? 'n').mapM (number "bytes")
  let quiet := g.has 's'
  let bytes := g.has 'b' || g.has 'c'
  let load (path : Octets) : Tool Octets := do
    match ← Tool.load path with
    | .ok text => return text
    | .error cause =>
      if !quiet then Tool.warn (path ++ ": " ++ cause.number.text)
      Tool.exit 2
  let cut (text : Octets) (skip : Nat) : List Char :=
    let rest := text.toList.drop skip
    match limit? with
    | some n => rest.take n
    | none => rest
  let skipSecond := match skips with
    | [_, n] => n
    | [n] => if g.has 'i' then n else 0
    | _ => 0
  let a := cut (← load first) (skips.headD 0)
  let b := cut (← load second) skipSecond
  let shared := a.zip b
  let wrong := ((List.range shared.length).zip shared).filter fun (_, x, y) => x ≠ y
  let ended (told : Bool) : Tool Unit := do
    if a.length ≠ b.length then
      let (shorter, own) := if a.length < b.length then (first, a) else (second, b)
      if told && !quiet then
        let empty := if own.isEmpty then " which is empty"
          else
            let lines := lineEnds own
            " after byte " ++ toString own.length ++ (if g.has 'l' then ""
              else if own.getLast? = some '\n' then ", line " ++ toString lines
              else ", in line " ++ toString (lines + 1))
        Tool.warn ("EOF on " ++ shorter ++ empty)
      Tool.mark 1
  if g.has 'l' && !quiet then
    let width := (toString (max a.length b.length)).length
    for (i, x, y) in wrong do
      Tool.print (padLeft width (toString (i + 1)) ++ " " ++ octalByteText x ++
        (if bytes then " " ++ padRight 4 (caretByte x) else "") ++ " " ++ octalByteText y ++
        (if bytes then " " ++ caretByte y else "") ++ "\n")
    if !wrong.isEmpty then Tool.mark 1
    ended true
  else match wrong with
    | (i, x, y) :: _ =>
      if !quiet then
        let line := lineEnds (a.take i) + 1
        Tool.print (first ++ " " ++ second ++ " differ: byte " ++ toString (i + 1) ++ ", line " ++
          toString line ++ (if bytes then " is " ++ octalByteText x ++ " " ++ caretByte x ++
            " " ++ octalByteText y ++ " " ++ caretByte y else "") ++ "\n")
      Tool.mark 1
    | [] => ended true

namespace Comparing

inductive Form where
  | plain
  | unified (around : Nat)
  | context (around : Nat)
  /-- Commands that make the second file out of the first. -/
  | commands
  /-- Such commands, first ones first. -/
  | counted
  | brief
  deriving DecidableEq, Repr, Inhabited

structure Style where
  form : Form := .plain
  ignoresCase : Bool := false
  ignoresBlanks : Bool := false
  ignoresBlankAmount : Bool := false
  ignoresBlankEnd : Bool := false
  ignoresEmptyLines : Bool := false
  ignoresReturns : Bool := false
  asText : Bool := false
  tellsSame : Bool := false
  recursive : Bool := false
  newAsEmpty : Bool := false
  labels : List Octets := []
  excluded : List Octets := []
  /-- The options as they are repeated in front of the files of directories. -/
  repeated : Octets := ""

structure Side where
  path : Octets
  lines : Array Octets
  /-- The last line lacks its end. -/
  isOpen : Bool
  time : Timestamp

def Style.key (s : Style) (line : Octets) : Octets :=
  let cs := line.toList
  let isGap (c : Char) : Bool := c = ' ' || ('\t' ≤ c && c ≤ '\x0d')
  let cs := if s.ignoresReturns && cs.getLast? = some '\r' then cs.dropLast else cs
  let cs := if s.ignoresBlanks then cs.filter (!isGap ·) else cs
  let cs := if s.ignoresBlankAmount || s.ignoresBlankEnd then
      (cs.reverse.dropWhile isGap).reverse else cs
  let cs := if s.ignoresBlankAmount then
      cs.foldr (fun c rest => if isGap c then (if rest.head? = some ' ' then rest else ' ' :: rest)
        else c :: rest) [] else cs
  String.ofList (if s.ignoresCase then cs.map Char.toLower else cs)

/-- The keys of the lines of a side. A last line without its end equals no other, but for commands,
which cannot tell. -/
def Style.keys (s : Style) (side : Side) : List Octets :=
  let keys := side.lines.toList.map s.key
  if side.isOpen && s.form ≠ .commands then
    keys.dropLast ++ keys.getLast?.toList.map (· ++ "\n")
  else keys

def rangeText (first count : Nat) : Octets :=
  if count ≤ 1 then toString (first + count) else toString (first + 1) ++ "," ++
    toString (first + count)

/-- A line of a side behind a mark, with a remark when its end is missing. -/
def Side.shown (s : Side) (mark : Octets) (i : Nat) : Octets :=
  let line := (s.lines[i]?).getD ""
  mark ++ line ++ "\n" ++
    (if s.isOpen && i + 1 = s.lines.size then "\\ No newline at end of file\n" else "")

def Side.shownFrom (s : Side) (mark : Octets) (first count : Nat) : Octets :=
  String.join ((List.range count).map fun k => s.shown mark (first + k))

def plainText (a b : Side) (ds : List Difference) : Octets :=
  String.join (ds.map fun d =>
    let letter := if d.removed = 0 then "a" else if d.added = 0 then "d" else "c"
    rangeText d.first d.removed ++ letter ++ rangeText d.second d.added ++ "\n" ++
      a.shownFrom "< " d.first d.removed ++
      (if letter = "c" then "---\n" else "") ++ b.shownFrom "> " d.second d.added)

/-- Differences as commands of an editor, last ones first. -/
def commandText (b : Side) (ds : List Difference) : Octets :=
  String.join (ds.reverse.map fun d =>
    let letter := if d.removed = 0 then "a" else if d.added = 0 then "d" else "c"
    rangeText d.first d.removed ++ letter ++ "\n" ++ (if d.added = 0 then "" else
      String.join ((List.range d.added).map fun k =>
        (b.lines[d.second + k]?).getD "" ++ "\n") ++ ".\n"))

def countedText (b : Side) (ds : List Difference) : Octets :=
  String.join (ds.map fun d =>
    (if d.removed = 0 then "" else
      "d" ++ toString (d.first + 1) ++ " " ++ toString d.removed ++ "\n") ++
    (if d.added = 0 then "" else
      "a" ++ toString (d.first + d.removed) ++ " " ++ toString d.added ++ "\n" ++
        String.join ((List.range d.added).map fun k =>
          let i := d.second + k
          (b.lines[i]?).getD "" ++ (if b.isOpen && i + 1 = b.lines.size then "" else "\n"))))

def hunks (around : Nat) : List Difference → List (List Difference)
  | [] => []
  | d :: rest =>
    match hunks around rest with
    | (e :: more) :: others =>
      if e.first - (d.first + d.removed) ≤ 2 * around then (d :: e :: more) :: others
      else [d] :: (e :: more) :: others
    | others => [d] :: others

/-- The part of both sides that a hunk shows: where it begins and how many lines it has. -/
def extent (around : Nat) (a b : Side) (hunk : List Difference) : (Nat × Nat) × (Nat × Nat) :=
  let first := hunk.headD default
  let last := hunk.getLast?.getD default
  let lead := min around first.first
  let tail := min around (a.lines.size - (last.first + last.removed))
  ((first.first - lead, last.first + last.removed + tail - (first.first - lead)),
    (first.second - lead, min b.lines.size (last.second + last.added + tail) -
      (first.second - lead)))

def unifiedRange (first count : Nat) : Octets :=
  if count = 1 then toString (first + 1)
  else if count = 0 then toString first ++ ",0"
  else toString (first + 1) ++ "," ++ toString count

def unifiedHunk (around : Nat) (a b : Side) (hunk : List Difference) : Octets :=
  let ((i, m), (j, n)) := extent around a b hunk
  let (pieces, next) := hunk.foldl (fun ((pieces, next) : List Octets × Nat) d =>
    ((a.shownFrom " " next (d.first - next) ++ a.shownFrom "-" d.first d.removed ++
      b.shownFrom "+" d.second d.added) :: pieces, d.first + d.removed)) ([], i)
  "@@ -" ++ unifiedRange i m ++ " +" ++ unifiedRange j n ++ " @@\n" ++
    String.join pieces.reverse ++ a.shownFrom " " next (i + m - next)

def contextRange (first count : Nat) : Octets :=
  if count ≤ 1 then toString (first + count)
  else toString (first + 1) ++ "," ++ toString (first + count)

/-- A hunk in the context form. A side without changes of its own shows no lines. -/
def contextHunk (around : Nat) (a b : Side) (hunk : List Difference) : Octets :=
  let ((i, m), (j, n)) := extent around a b hunk
  let side (s : Side) (first count : Nat) (own other : Difference → Nat × Nat) (mark : Octets) :
      Octets :=
    if hunk.all fun d => (own d).2 = 0 then ""
    else
      let (pieces, next) := hunk.foldl (fun ((pieces, next) : List Octets × Nat) d =>
        let (place, size) := own d
        let mark := if (other d).2 = 0 then mark else "! "
        let piece := s.shownFrom "  " next (place - next) ++ s.shownFrom mark place size
        (piece :: pieces, place + size))
        ([], first)
      String.join pieces.reverse ++ s.shownFrom "  " next (first + count - next)
  let ofFirst (d : Difference) : Nat × Nat := (d.first, d.removed)
  let ofSecond (d : Difference) : Nat × Nat := (d.second, d.added)
  "***************\n*** " ++ contextRange i m ++ " ****\n" ++ side a i m ofFirst ofSecond "- " ++
    "--- " ++ contextRange j n ++ " ----\n" ++ side b j n ofSecond ofFirst "+ "

def headLine (mark : Octets) (label? : Option Octets) (s : Side) : Octets :=
  match label? with
  | some label => mark ++ " " ++ label ++ "\n"
  | none => mark ++ " " ++ s.path ++ "\t" ++
      (CivilTime.ofTimestamp s.time).format "%Y-%m-%d %H:%M:%S.%N %z" ++ "\n"

def Style.text (s : Style) (a b : Side) (ds : List Difference) : Octets :=
  let heads (first second : Octets) : Octets :=
    headLine first s.labels.head? a ++ headLine second (s.labels.drop 1).head? b
  match s.form with
  | .plain => plainText a b ds
  | .commands => commandText b ds
  | .counted => countedText b ds
  | .unified around =>
    heads "---" "+++" ++ String.join ((hunks around ds).map (unifiedHunk around a b))
  | .context around =>
    heads "***" "---" ++ String.join ((hunks around ds).map (contextHunk around a b))
  | .brief => ""

/-- A difference in which only empty lines are removed and added. -/
def isEmptyChange (a b : Side) (d : Difference) : Bool :=
  let isEmpty (s : Side) (i : Nat) : Bool := (s.lines[i]?).getD "" = ""
  (List.range d.removed).all (fun k => isEmpty a (d.first + k)) &&
    (List.range d.added).all fun k => isEmpty b (d.second + k)

def kindName (e : Entry) : Octets :=
  match e.node with
  | .file content => if content.isEmpty then "regular empty file" else "regular file"
  | .directory => "directory"
  | .link _ => "symbolic link"
  | .device _ => "character special file"

def compareTexts (s : Style) (head : Octets) (paths : Octets × Octets) (texts : Octets × Octets)
    (times : Timestamp × Timestamp) : Tool Unit := do
  let label (n : Nat) (path : Octets) : Octets := ((s.labels.drop n).head?).getD path
  let names := (label 0 paths.1, label 1 paths.2)
  let isBinary (t : Octets) : Bool := t.toList.contains '\x00'
  let differ (what : Octets) (status : Nat) : Tool Unit := do
    Tool.print (what ++ " " ++ names.1 ++ " and " ++ names.2 ++ " differ\n")
    Tool.markAtLeast status
  if !s.asText && (isBinary texts.1 || isBinary texts.2) then
    if texts.1 ≠ texts.2 then
      if s.form = .brief then differ "Files" 1 else differ "Binary files" 2
    else if s.tellsSame then
      Tool.print ("Files " ++ names.1 ++ " and " ++ names.2 ++ " are identical\n")
  else
    let side (path text : Octets) (time : Timestamp) : Side :=
      let (lines, isOpen) := linesOf text
      ⟨path, lines.toArray, isOpen, time⟩
    let a := side paths.1 texts.1 times.1
    let b := side paths.2 texts.2 times.2
    if s.form = .commands && texts.1 ≠ texts.2 then
      for (side, name) in [(a, names.1), (b, names.2)] do
        if side.isOpen then Tool.complain 2 (name ++ ": No newline at end of file\n")
    let kept := match s.form with
      | .unified n => n
      | .context n => n
      | _ => 0
    let ds := Difference.between kept (s.keys a) (s.keys b)
    if ds.isEmpty || (s.ignoresEmptyLines && ds.all (isEmptyChange a b)) then
      if s.tellsSame then
        Tool.print ("Files " ++ names.1 ++ " and " ++ names.2 ++ " are identical\n")
    else if s.form = .brief then differ "Files" 1
    else
      let ds := if s.ignoresEmptyLines then ds.filter (!isEmptyChange a b ·) else ds
      Tool.print (head ++ s.text a b ds)
      Tool.markAtLeast 1

/-- Compare two files; none stands for one that is not there. -/
def compareFiles (s : Style) (head : Octets) (first second : Octets) (absent : Bool × Bool) :
    Tool Unit := do
  let load (path : Octets) (isAbsent : Bool) : Tool (Option (Octets × Timestamp)) := do
    if isAbsent then return some ("", ⟨0⟩)
    match ← Tool.load path with
    | .ok text =>
      let now := (← Tool.files).now
      let time := match ← entryOf path with
        | .ok (_, e) => e.modified
        | .error _ => now
      return some (text, time)
    | .error cause =>
      Tool.complain 2 (path ++ ": " ++ cause.number.text)
      return none
  let a? ← load first absent.1
  let b? ← load second absent.2
  match a?, b? with
  | some (a, s₁), some (b, s₂) => compareTexts s head (first, second) (a, b) (s₁, s₂)
  | _, _ => return ()

/-- Compare two directories. `fuel` bounds the depth. -/
def compareDirectories (s : Style) : Nat → Octets → Octets → Tool Unit
  | 0, _, _ => return ()
  | fuel + 1, first, second => do
    let namesIn (path : Octets) : Tool (List Octets) := do
      match ← entryOf path with
      | .ok (l, e) =>
        if e.readable then
          return ((← Tool.files).children l).map Octets.ofGlyphs
        else
          Tool.complain 2 (path ++ ": " ++ Errno.accessDenied.text)
          return []
      | .error _ => return []
    let a ← namesIn first
    let b ← namesIn second
    let all := ((a ++ b).eraseDups.mergeSort fun x y => decide (x ≤ y)).filter fun name =>
      !s.excluded.any fun pattern => fitsName pattern name
    for name in all do
      let x := below first name
      let y := below second name
      let head := "diff" ++ s.repeated ++ " " ++ x ++ " " ++ y ++ "\n"
      let hasX := a.contains name
      let hasY := b.contains name
      if !(hasX && hasY) && !s.newAsEmpty then
        Tool.print ("Only in " ++ (if hasX then first else second) ++ ": " ++ name ++ "\n")
        Tool.markAtLeast 1
      else
        let own ← entryOf (if hasX then x else y)
        let other ← entryOf (if hasY then y else x)
        match own, other with
        | .error number, _ => Tool.complain 2 (x ++ ": " ++ number.text)
        | _, .error number => Tool.complain 2 (y ++ ": " ++ number.text)
        | .ok (_, e), .ok (_, f) =>
          if e.isDirectory && f.isDirectory then
            if s.recursive then compareDirectories s fuel x y
            else if hasX && hasY then
              Tool.print ("Common subdirectories: " ++ x ++ " and " ++ y ++ "\n")
          else if e.isDirectory || f.isDirectory then
            Tool.print ("File " ++ x ++ " is a " ++ kindName e ++ " while file " ++ y ++ " is a " ++
              kindName f ++ "\n")
            Tool.markAtLeast 1
          else compareFiles s head x y (!hasX, !hasY)

/-- The options of `diff`. -/
def diffChoices : List Choice :=
  [.flag 'q' "brief", .flag 's' "report-identical-files", .flag 'c', .valued 'C',
    .named '\x03' "context" .perhaps, .flag 'u', .valued 'U', .named '\x04' "unified" .perhaps,
    .flag 'e' "ed", .flag 'n' "rcs", .named '\x05' "normal", .flag 'i' "ignore-case",
    .flag 'w' "ignore-all-space", .flag 'b' "ignore-space-change",
    .flag 'Z' "ignore-trailing-space", .flag 'E' "ignore-tab-expansion",
    .flag 'B' "ignore-blank-lines", .named '\x06' "strip-trailing-cr", .flag 'a' "text",
    .flag 'r' "recursive", .flag 'N' "new-file", .valued 'x' "exclude", .valued 'L' "label",
    .flag 'd' "minimal", .flag 'H' "speed-large-files", .flag 't' "expand-tabs",
    .flag 'T' "initial-tab", .flag 'p' "show-c-function", .named '\x07' "color" .perhaps,
    .named '\x08' "no-dereference"]

end Comparing

def diff : Program := do
  let i ← Tool.invocation
  -- a number behind the letter of a form is the number of lines around
  let args := i.args.map fun arg =>
    match arg.toList with
    | '-' :: 'u' :: digits@(_ :: _) => if digits.all Char.isDigit then
        "-U" ++ String.ofList digits else arg
    | _ => arg
  let g ← withReader (fun (j : Invocation) => { j with args := args }) (options diffChoices)
  let around (text : Octets) : Tool Nat := do
    match natural? text.toList with
    | some n => return n
    | none =>
      if text = "" then return 3
      else failWithHint ("invalid context length '" ++ text ++ "'")
  let formKeys := ['c', 'C', '\x03', 'u', 'U', '\x04', 'e', 'n', '\x05']
  let form ← match g.last? ['q'], g.last? formKeys with
    | some _, _ => pure Form.brief
    | none, none => pure .plain
    | none, some key => do
      let value := (g.value? key).getD ""
      if key = 'c' || key = '\x03' then pure (.context (← around value))
      else if key = 'C' then pure (.context (← around value))
      else if key = 'u' || key = '\x04' || key = 'U' then pure (.unified (← around value))
      else if key = 'e' then pure .commands
      else if key = 'n' then pure .counted
      else pure .plain
  let style : Style :=
    { form := form, ignoresCase := g.has 'i', ignoresBlanks := g.has 'w'
      ignoresBlankAmount := g.has 'b', ignoresBlankEnd := g.has 'Z'
      ignoresEmptyLines := g.has 'B', ignoresReturns := g.has '\x06', asText := g.has 'a'
      tellsSame := g.has 's', recursive := g.has 'r', newAsEmpty := g.has 'N'
      labels := g.values 'L', excluded := g.values 'x'
      repeated := String.join ((i.args.filter fun arg =>
        arg.startsWith "-" && arg ≠ "-" && arg ≠ "--").map (" " ++ ·)) }
  match g.operands with
  | [] => failWithHint ("missing operand after '" ++ (i.args.getLast?.getD i.name) ++ "'")
  | [path] => failWithHint ("missing operand after '" ++ path ++ "'")
  | _ :: _ :: extra :: _ => failWithHint ("extra operand '" ++ extra ++ "'")
  | [first, second] =>
    let known (path : Octets) : Tool (Except Errno Bool) := do
      if path = "-" then return .ok false
      else return (← entryOf path).map fun (_, e) => e.isDirectory
    match ← known first, ← known second with
    | .ok true, .ok true =>
      compareDirectories style ((← Tool.files).entries.length + 1) first second
    | .ok true, .ok false =>
      compareFiles style "" (below first (lastPart second)) second (false, false)
    | .ok false, .ok true =>
      compareFiles style "" first (below second (lastPart first)) (false, false)
    | .ok _, .ok _ => compareFiles style "" first second (false, false)
    | a, b =>
      let absent (r : Except Errno Bool) : Bool := match r with
        | .error .noEntry => style.newAsEmpty
        | _ => false
      if absent a ≠ absent b then compareFiles style "" first second (absent a, absent b)
      else
        for (r, path) in [(a, first), (b, second)] do
          match r with
          | .error number => Tool.complain 2 (path ++ ": " ++ number.text)
          | .ok _ => pure ()

end Launchpad.Machine.Programs
