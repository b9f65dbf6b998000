import Launchpad.Machine.Inputs

/-!
Programs that show the lines of files: all of them, numbered or marked, the first or the last ones,
from the last to the first, or from right to left.
-/

namespace Launchpad.Machine.Programs

/-- How `cat` shows a text. -/
structure Display where
  numbersAll : Bool := false
  numbersFull : Bool := false
  showsEnds : Bool := false
  showsTabs : Bool := false
  showsControls : Bool := false
  squeezes : Bool := false

structure DisplayState where
  atStart : Bool := true
  /-- How many empty lines stand directly in front. -/
  blanks : Nat := 0
  number : Nat := 1
  /-- What has been shown, last texts first. -/
  out : List Octets := []

/-- A byte that cannot be seen, shown by one or more that can. -/
def visibleByte (c : Char) : Octets :=
  let low (n : Nat) : Octets :=
    if n < 32 then String.ofList ['^', Char.ofNat (n + 64)]
    else if n = 127 then "^?"
    else String.ofList [Char.ofNat n]
  if c.toNat < 128 then low c.toNat else "M-" ++ low (c.toNat - 128)

def Display.step (d : Display) (s : DisplayState) (c : Char) : DisplayState :=
  let lineEnd : Octets := if d.showsEnds then "$\n" else "\n"
  let label : Octets := padLeft 6 (toString s.number) ++ "\t"
  if c = '\n' then
    if !s.atStart then { s with atStart := true, blanks := 0, out := lineEnd :: s.out }
    else if d.squeezes && s.blanks ≥ 1 then s
    else if d.numbersAll && !d.numbersFull then
      { s with blanks := s.blanks + 1, number := s.number + 1, out := lineEnd :: label :: s.out }
    else { s with blanks := s.blanks + 1, out := lineEnd :: s.out }
  else
    let s := if s.atStart && (d.numbersAll || d.numbersFull) then
        { s with number := s.number + 1, out := label :: s.out }
      else s
    let shown : Octets :=
      if c = '\t' then (if d.showsTabs then "^I" else "\t")
      else if d.showsControls then visibleByte c
      else String.ofList [c]
    { s with atStart := false, blanks := 0, out := shown :: s.out }

/-- The channel of an input holds the file that the output goes into, and something is left to
read. -/
def isOutputFile (channel : Nat) : Tool Bool := do
  let i ← Tool.invocation
  let session := (← get).session
  match session.channels[channel]?, (i.descriptors.lookup 1).bind (session.channels[·]?) with
  | some (.file serial offset _ _ _), some (.file own _ _ _ _) =>
    return serial = own && offset < (session.content serial).size
  | _, _ => return false

def cat : Program := do
  let g ← Tool.options
    [.flag 'A' "show-all", .flag 'b' "number-nonblank", .flag 'e', .flag 'E' "show-ends",
      .flag 'n' "number", .flag 's' "squeeze-blank", .flag 't', .flag 'T' "show-tabs", .flag 'u',
      .flag 'v' "show-nonprinting"]
  let any (keys : List Char) : Bool := keys.any g.has
  let d : Display :=
    { numbersAll := g.has 'n', numbersFull := g.has 'b', showsEnds := any ['A', 'e', 'E']
      showsTabs := any ['A', 't', 'T'], showsControls := any ['A', 'e', 't', 'v']
      squeezes := g.has 's' }
  let isPlain := !any ['A', 'b', 'e', 'E', 'n', 's', 't', 'T', 'v']
  let mut state : DisplayState := {}
  for path in Tool.inputs g.operands do
    match ← Tool.openInput path with
    | .error number => Tool.complain 1 (Quoting.beforeColon path ++ ": " ++ number.text)
    | .ok channel =>
      if ← isOutputFile channel then
        Tool.complain 1 (Quoting.beforeColon path ++ ": input file is output file")
      else
        match ← Tool.drain channel with
        | .error number => Tool.complain 1 (Quoting.beforeColon path ++ ": " ++ number.text)
        | .ok bytes =>
          if isPlain then Tool.writeBytes 1 bytes
          else
            let after := (Octets.ofArray bytes).toList.foldl d.step state
            Tool.print (String.join after.out.reverse)
            state := { after with out := [] }

structure Extent where
  /-- The unit is the byte and not the line. -/
  inBytes : Bool
  count : Nat
  /-- For the front of a file, all but so much of its end is meant; for the end of a file,
  everything from so far on. -/
  turned : Bool

/-- The first so many lines of a text, ends included. -/
def firstLines (n : Nat) (cs : List Char) : List Char :=
  match n, cs with
  | 0, _ => []
  | _, [] => []
  | n + 1, c :: rest => c :: firstLines (if c = '\n' then n else n + 1) rest

def behindLines (n : Nat) (cs : List Char) : List Char :=
  match n, cs with
  | 0, cs => cs
  | _, [] => []
  | n + 1, c :: rest => behindLines (if c = '\n' then n else n + 1) rest

/-- The number of lines of a text, the last of which may lack its end. -/
def lineCount (cs : List Char) : Nat :=
  cs.count '\n' + (match cs.getLast? with
    | some c => if c = '\n' then 0 else 1
    | none => 0)

def Extent.front (e : Extent) (cs : List Char) : List Char :=
  if e.inBytes then cs.take (if e.turned then cs.length - e.count else e.count)
  else firstLines (if e.turned then lineCount cs - e.count else e.count) cs

def Extent.back (e : Extent) (cs : List Char) : List Char :=
  if e.inBytes then cs.drop (if e.turned then e.count - 1 else cs.length - e.count)
  else behindLines (if e.turned then e.count - 1 else lineCount cs - e.count) cs

def readExtent (inBytes : Bool) (sign : Char) (text : Octets) : Tool Extent := do
  let cs := text.toList
  let turned := cs.head? = some sign
  let digits := if cs.head? = some sign || cs.head? = some '-' then cs.drop 1 else cs
  match (if digits.head? = some '+' || digits.head? = some '-' then none
      else measured? (String.ofList digits)) with
  | some count => return ⟨inBytes, count, turned⟩
  | none =>
    Tool.fail 1 ("invalid number of " ++ (if inBytes then "bytes" else "lines") ++ ": " ++
      Quoting.plain text)

/-- An old way to write an amount: a sign with digits and the letters of options. The answer holds
the amount and whether it counts bytes. -/
def oldExtent? (signs : List Char) (arg : Octets) : Option (Octets × Bool) :=
  match arg.toList with
  | sign :: rest =>
    let digits := rest.takeWhile Char.isDigit
    let letters := rest.dropWhile Char.isDigit
    if !signs.contains sign || digits = [] || !letters.all fun c => "bclqv".toList.contains c then
      none
    else
      let unit := if letters.contains 'b' then "b" else ""
      some ((if sign = '+' then "+" else "") ++ String.ofList digits ++ unit,
        letters.contains 'c' || letters.contains 'b')
  | [] => none

/-- Show a part of each file, under headings if there are several. -/
def showParts (sign : Char) (oldSigns : List Char) (part : Extent → List Char → List Char)
    (usedUp : Bool) : Program := do
  let i ← Tool.invocation
  let (args, old?) := match i.args with
    | first :: rest =>
      match oldExtent? oldSigns first with
      | some (text, inBytes) => (rest, some (text, inBytes))
      | none => (first :: rest, none)
    | [] => ([], none)
  let choices : List Choice :=
    [.valued 'c' "bytes", .valued 'n' "lines", .flag 'q' "quiet", .flag 'q' "silent",
      .flag 'v' "verbose", .flag 'z' "zero-terminated", .flag 'f', .flag 'F', .valued 's',
      .named '\x03' "follow" .perhaps, .named '\x04' "pid" .value, .named '\x05' "retry"]
  let g ← withReader (fun i => { i with args := args }) (Tool.options choices)
  let e ← match g.options.reverse.find? (fun (key, _) => key = 'c' || key = 'n'), old? with
    | some (key, text), _ => readExtent (key = 'c') sign text
    | none, some (text, inBytes) => readExtent inBytes sign text
    | none, none => pure ⟨false, 10, false⟩
  let paths := Tool.inputs g.operands
  let headed : Bool := match g.last? ['q', 'v'] with
    | some key => key = 'v'
    | none => paths.length > 1
  let mut isFirst := true
  for path in paths do
    match ← Tool.openInput path with
    | .error number =>
      Tool.complain 1 ("cannot open " ++ Quoting.always path ++ " for reading: " ++ number.text)
    | .ok channel =>
      if headed then
        Tool.print ((if isFirst then "" else "\n") ++ "==> " ++ Tool.inputTitle path ++ " <==\n")
        isFirst := false
      match (← get).session.readable channel with
      | .error number =>
        Tool.complain 1 ("error reading " ++ Quoting.always (Tool.inputTitle path) ++ ": " ++
          number.text)
      | .ok bytes =>
        let shown := part e (Octets.ofArray bytes).toList
        Tool.leaveBehind channel 8192 bytes (if usedUp then bytes.size else shown.length)
        Tool.print (String.ofList shown)

def head : Program := showParts '-' ['-'] Extent.front false

def tail : Program := showParts '+' ['-', '+'] Extent.back true

/-- The records of a text from the last to the first. What separates them stands behind each, or in
front of each. -/
def reversedRecords (separator : List Char) (before : Bool) (text : Octets) : Octets :=
  let parts := text.splitOn (String.ofList separator)
  let sep := String.ofList separator
  let records := if before then
      match parts with
      | first :: rest => first :: rest.map (sep ++ ·)
      | [] => []
    else
      match parts.reverse with
      | last :: front => front.reverse.map (· ++ sep) ++ [last]
      | [] => []
  String.join records.reverse

/-- Show the lines of files from the last to the first. -/
def tac : Program := do
  let g ← Tool.options [.flag 'b' "before", .flag 'r' "regex", .valued 's' "separator"]
  let separator := match g.value? 's' with
    | some text => if text = "" then ['\x00'] else text.toList
    | none => ['\n']
  for path in Tool.inputs g.operands do
    match ← Tool.load path with
    | .ok text => Tool.print (reversedRecords separator (g.has 'b') text)
    | .error (.closed number) =>
      Tool.complain 1 ("failed to open " ++ Quoting.always path ++ " for reading: " ++ number.text)
    | .error (.unread number) =>
      Tool.complain 1 (Quoting.beforeColon path ++ ": read error: " ++ number.text)

/-- Show the lines of files from right to left. -/
def rev : Program := do
  let g ← Tool.options [] 1 true "util-linux 2.38.1"
  for path in Tool.inputs g.operands do
    match ← Tool.load path with
    | .ok text =>
      let (lines, isOpen) := linesOf text
      Tool.print (unlinesOpen (lines.map fun line =>
        Octets.ofGlyphs (Octets.glyphs line).reverse) isOpen)
    | .error (.closed number) => Tool.complain 1 ("cannot open " ++ path ++ ": " ++ number.text)
    | .error (.unread number) => Tool.complain 1 (path ++ ": " ++ number.text)

/-- The counts of a text: lines, words, characters, bytes and the widest line. -/
def countsOf (text : Octets) : List Nat :=
  let cs := text.toList
  let isGap (c : Char) : Bool := c = ' ' || ('\t' ≤ c && c ≤ '\x0d')
  let (words, _) := cs.foldl (fun (n, inside) c =>
    if isGap c then (n, false) else (if inside then n else n + 1, true)) (0, false)
  let signs := (Octets.glyphs text).filter fun
    | .char _ => true
    | .broken _ => false
  let (widest, current) := signs.foldl (fun (widest, current) g =>
    match g with
    | .char '\n' => (max widest current, 0)
    | .char '\r' => (max widest current, 0)
    | .char '\x0c' => (max widest current, 0)
    | .char '\t' => (widest, current / 8 * 8 + 8)
    | .char c => (widest, if Text.isPlain c || c = ' ' then current + 1 else current)
    | .broken _ => (widest, current)) (0, 0)
  [cs.count '\n', words, signs.length, cs.length, max widest current]

/-- Count lines, words, characters and bytes. The columns are as wide as the sizes of all files
together ask for, and wider when one of them is no file. -/
def wc : Program := do
  let g ← Tool.options
    [.flag 'l' "lines", .flag 'w' "words", .flag 'm' "chars", .flag 'c' "bytes",
      .flag 'L' "max-line-length"]
  let chosen := ['l', 'w', 'm', 'c', 'L'].map g.has
  let chosen := if chosen.any id then chosen else [true, true, false, true, false]
  let isNamed := g.operands ≠ []
  let paths := Tool.inputs g.operands
  let i ← Tool.invocation
  let session := (← get).session
  let sizes : List (Option (Option Nat)) := paths.map fun path =>
    if path = "-" then
      match (i.descriptors.lookup 0).bind (session.channels[·]?) with
      | some (.file serial _ _ _ _) => some (some (session.content serial).size)
      | some _ => some none
      | none => none
    else match session.files.status (Octets.path path) with
      | .ok (_, e) =>
        match e.node with
        | .file content => some (some content.size)
        | _ => some none
      | .error _ => none
  let all := sizes.foldl (fun n size? => n + ((size?.bind id).getD 0)) 0
  let width :=
    if paths.length = 1 && (chosen.filter id).length = 1 then 1
    else max (toString all).length (if sizes.any (· = some none) then 7 else 1)
  let line (counts : List Nat) (name : Octets) : Octets :=
    let shown := (chosen.zip counts).filterMap fun (isChosen, n) =>
      if isChosen then some (padLeft width (toString n)) else none
    " ".intercalate shown ++ (if name = "" then "" else " " ++ name) ++ "\n"
  let mut total := [0, 0, 0, 0, 0]
  for path in paths do
    let counts? ← match ← Tool.load path with
      | .ok text => pure (some (countsOf text))
      | .error cause =>
        Tool.complain 1 (Quoting.beforeColon path ++ ": " ++ cause.number.text)
        pure (match cause with
          | .closed _ => none
          | .unread _ => some [0, 0, 0, 0, 0])
    match counts? with
    | some counts =>
      Tool.print (line counts (if isNamed then Quoting.beforeColon path else ""))
      total := (total.zip counts).zip [false, false, false, false, true] |>.map
        fun ((a, b), isWidest) => if isWidest then max a b else a + b
    | none => pure ()
  if paths.length > 1 then Tool.print (line total "total")

end Launchpad.Machine.Programs
