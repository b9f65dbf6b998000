import Launchpad.FileSystem.Listing
import Launchpad.Machine.Programs.Files
import Launchpad.Regex.Matching
import Launchpad.Script.Field

/-!
Searching lines for patterns.
-/

namespace Launchpad.Machine.Programs

open Regex (Pattern Subject)
open Text (Glyph)

def literally (signs : List Glyph) : Pattern :=
  signs.foldr (fun g p => .sequence (.sign g) p) .empty

structure LineSearch where
  pattern : Pattern
  ignoresCase : Bool
  inverted : Bool
  /-- How many lines are looked for at most. -/
  limit? : Option Nat
  before : Nat
  behind : Nat
  showsCount : Bool
  showsNames? : Option Bool
  quiet : Bool
  onlyMatches : Bool
  numbersLines : Bool
  numbersBytes : Bool
  titled : Bool
  /-- Files that hold no text are searched as if they did. -/
  asText : Bool
  lineEnd : Octets
  nameEnd : Octets
  indents : Bool

namespace LineSearch

def subject (s : LineSearch) (line : Octets) : Subject :=
  { signs := (Octets.glyphs line).toArray, ignoreCase := s.ignoresCase }

def selects (s : LineSearch) (line : Octets) : Bool :=
  (Regex.search? (s.subject line) s.pattern 0).isSome ≠ s.inverted

/-- What stands in front of a line: the name of the file, and numbers. -/
def lead (s : LineSearch) (title : Octets) (mark : Octets) (number offset : Nat) : Octets :=
  (if s.titled then title ++ (if s.nameEnd = "\x00" then "\x00" else mark) else "") ++
    (if s.numbersLines then (if s.indents then padLeft 4 (toString number) else
      toString number) ++ mark else "") ++
    (if s.numbersBytes then toString offset ++ mark else "") ++
    (if s.indents then "\t" else "")

def parts (s : LineSearch) (line : Octets) : List (Nat × Octets) :=
  let subject := s.subject line
  (Regex.allMatches subject s.pattern).filterMap fun m =>
    if m.start = m.stop then none
    else some ((Octets.ofGlyphs (subject.signs.extract 0 m.start).toList).length,
      Octets.ofGlyphs (subject.signs.extract m.start m.stop).toList)

def isShowable (line : Octets) : Bool :=
  (Octets.glyphs line).all fun
    | .char _ => true
    | .broken _ => false

/-- Search a text line by line and show what is to be shown. The answer is the number of lines that
were found, and whether the file turned out to hold no text. -/
def run (s : LineSearch) (title text : Octets) : Tool (Nat × Bool) := do
  let lines := if s.lineEnd = "\n" then (linesOf text).1
    else
      let parts := text.splitOn s.lineEnd
      if parts.getLast? = some "" then parts.dropLast else parts
  let isBinary := !s.asText && s.lineEnd = "\n" && text.toList.contains '\x00'
  let showsLines := !s.showsCount && s.showsNames?.isNone && !s.quiet
  let mut found := 0
  let mut number := 0
  let mut offset := 0
  let mut left := 0
  let mut waiting : List (Nat × Nat × Octets) := []
  let mut shown? : Option Nat := none
  let mut hidden := false
  for line in lines do
    number := number + 1
    let isOver : Bool := (match s.limit? with
      | some limit => found ≥ limit
      | none => false) || (found > 0 && (s.quiet || s.showsNames?.isSome))
    if hidden || (isOver && left = 0) then pure ()
    else if !isOver && s.selects line then
      found := found + 1
      if showsLines then
        if isBinary then hidden := true
        else
          let context := waiting.reverse
          let first := match context with
            | (n, _) :: _ => n
            | [] => number
          if s.before + s.behind > 0 && !s.onlyMatches &&
              (match shown? with | some last => last + 1 < first | none => false) then
            Tool.print "--\n"
          for (n, o, text) in context do
            Tool.print (s.lead title "-" n o ++ text ++ s.lineEnd)
          if !s.asText && s.lineEnd = "\n" && !isShowable line then hidden := true
          else if s.onlyMatches then
            if !s.inverted then
              for (start, part) in s.parts line do
                Tool.print (s.lead title ":" number (offset + start) ++ part ++ s.lineEnd)
          else Tool.print (s.lead title ":" number offset ++ line ++ s.lineEnd)
          shown? := some number
          waiting := []
          left := s.behind
    else if showsLines && !isBinary && !s.onlyMatches then
      if left > 0 then
        Tool.print (s.lead title "-" number offset ++ line ++ s.lineEnd)
        shown? := some number
        left := left - 1
      else if s.before > 0 && !isOver then
        waiting := ((number, offset, line) :: waiting).take s.before
    else left := 0
    offset := offset + line.length + 1
  return (found, hidden)

end LineSearch

def fitsName (pattern name : Octets) : Bool :=
  Script.GlobItem.fits (Script.GlobItem.ofText pattern) name.toList

def searchChoices : List Choice :=
  [.flag 'E' "extended-regexp", .flag 'F' "fixed-strings", .flag 'G' "basic-regexp",
    .flag 'P' "perl-regexp", .valued 'e' "regexp", .valued 'f' "file", .flag 'i' "ignore-case",
    .flag 'y', .named '\x03' "no-ignore-case", .flag 'v' "invert-match",
    .flag 'w' "word-regexp", .flag 'x' "line-regexp", .flag 'c' "count",
    .named '\x04' "color" .perhaps, .named '\x04' "colour" .perhaps,
    .flag 'L' "files-without-match", .flag 'l' "files-with-matches", .valued 'm' "max-count",
    .flag 'o' "only-matching", .flag 'q' "quiet", .flag 'q' "silent", .flag 's' "no-messages",
    .flag 'b' "byte-offset", .flag 'H' "with-filename", .flag 'h' "no-filename",
    .named '\x05' "label" .value, .flag 'n' "line-number", .flag 'T' "initial-tab",
    .flag 'Z' "null", .valued 'A' "after-context", .valued 'B' "before-context",
    .valued 'C' "context", .flag 'a' "text", .named '\x06' "binary-files" .value,
    .valued 'D' "devices", .valued 'd' "directories", .flag 'I', .flag 'r' "recursive",
    .flag 'R' "dereference-recursive", .named '\x07' "include" .value,
    .named '\x08' "exclude" .value, .named '\x0b' "exclude-dir" .value,
    .named '\x0c' "exclude-from" .value, .named '\x0e' "line-buffered", .flag 'U' "binary",
    .flag 'z' "null-data"]

def readPattern (extended : Bool) (fixed : Bool) (text : Octets) : Tool Pattern := do
  let signs := Octets.glyphs text
  if fixed then return literally signs
  else match Pattern.read { extended := extended } signs with
    | .ok p => return p
    | .error why => Tool.fail 2 why.message

/-- What is to be searched: a file with its title, or the files below a directory. -/
structure SearchTarget where
  path : Octets
  /-- The path was found inside a directory. -/
  found : Bool

/-- The files below a directory, without those that are left out. `fuel` bounds the depth. -/
def targetsBelow (follows : Bool) (wanted unwantedDirectory : Octets → Bool) :
    Nat → Octets → Tool (List SearchTarget)
  | 0, _ => return []
  | fuel + 1, path => do
    match ← entryOf path with
    | .error number =>
      Tool.complain 2 (path ++ ": " ++ number.text)
      return []
    | .ok (l, e) =>
      if !e.readable then
        Tool.complain 2 (path ++ ": " ++ Errno.accessDenied.text)
        return []
      let inner ← ((← Tool.files).children l).mapM fun name => do
        let name := Octets.ofGlyphs name
        let full := if path = "" then name else below path name
        match ← (if follows then entryOf full else ownEntryOf full) with
        | .ok (_, e) =>
          if e.isDirectory then
            if unwantedDirectory name then return []
            else targetsBelow follows wanted unwantedDirectory fuel full
          else if e.isFile && wanted name then return [⟨full, true⟩]
          else return []
        | .error _ => return []
      return inner.flatten

/-- Search lines, in a dialect of patterns that options can change. -/
def searchWith (usual : Char) : Program := do
  let i ← Tool.invocation
  let args := i.args.flatMap fun arg =>
    match arg.toList with
    | '-' :: digits@(_ :: _) => if digits.all Char.isDigit then ["-C", String.ofList digits]
      else [arg]
    | _ => [arg]
  let isEnd (arg : Octets) : Bool := arg = "--"
  let args := args.takeWhile (!isEnd ·) ++ i.args.dropWhile (!isEnd ·)
  let g ← match readOptions (searchChoices ++ Tool.commonChoices) true args with
    | .ok _ =>
      withReader (fun i => { i with args := args })
        (Tool.options searchChoices 2 true "GNU grep) 3.8")
    | .error why =>
      Tool.warn why
      Tool.printError ("Usage: " ++ i.name ++ " [OPTION]... PATTERNS [FILE]...")
      Tool.hint 2
  let listed ← (g.values 'f').mapM fun path => do
    match ← Tool.load path with
    | .ok text => return (linesOf text).1
    | .error cause => Tool.fail 2 (path ++ ": " ++ cause.number.text)
  let given := (g.values 'e').flatMap (·.splitOn "\n") ++ listed.flatten
  let isGiven := g.has 'e' || g.has 'f'
  let (texts, operands) ← match isGiven, g.operands with
    | true, operands => pure (given, operands)
    | false, text :: operands => pure (text.splitOn "\n", operands)
    | false, [] =>
      Tool.printError ("Usage: " ++ i.name ++ " [OPTION]... PATTERNS [FILE]...")
      Tool.hint 2
  let kind := (g.last? ['E', 'F', 'G', 'P']).getD usual
  let patterns ← texts.mapM (readPattern (kind = 'E' || kind = 'P') (kind = 'F'))
  let whole := match patterns with
    | [] => Pattern.oneOf [] false
    | first :: rest => rest.foldl Pattern.either first
  let pattern := if g.has 'x' then
      .sequence (.place .lineStart) (.sequence whole (.place .lineEnd))
    else if g.has 'w' then
      .sequence (.place .noWordBefore) (.sequence whole (.place .noWordBehind))
    else whole
  let amount (key : Char) (what : Octets) : Tool (Option Nat) := do
    match g.value? key with
    | none => return none
    | some text =>
      match natural? text.toList with
      | some n => return some n
      | none =>
        if key = 'm' && text.startsWith "-" then return none
        else Tool.fail 2 (if key = 'm' then what else text ++ ": " ++ what)
  let context := "invalid context length argument"
  let around? ← amount 'C' context
  let before := ((← amount 'B' context).or around?).getD 0
  let behind := ((← amount 'A' context).or around?).getD 0
  let limit? ← amount 'm' "invalid max count"
  let recursive := g.has 'r' || g.has 'R' || g.value? 'd' = some "recurse"
  let wanted (name : Octets) : Bool :=
    let includes := g.values '\x07'
    (includes = [] || includes.any (fitsName · name)) &&
      !((g.values '\x08').any (fitsName · name))
  let unwantedDirectory (name : Octets) : Bool := (g.values '\x0b').any (fitsName · name)
  let depth := (← Tool.files).entries.length + 2
  let operands := if operands = [] then (if recursive then [""] else ["-"]) else operands
  let targets ← operands.mapM fun path => do
    let isDirectory ← if path = "-" then pure false
      else namesDirectory (if path = "" then "." else path)
    if recursive && isDirectory then
      if path = "" then
        let inner ← targetsBelow (g.has 'R') wanted unwantedDirectory depth "."
        return inner.map fun t => { t with path := (t.path.drop 2).toString }
      else targetsBelow (g.has 'R') wanted unwantedDirectory depth path
    else if path ≠ "-" && !wanted (lastPart path) then return []
    else return [⟨path, false⟩]
  let targets := targets.flatten
  let titled : Bool := match g.last? ['H', 'h'] with
    | some key => key = 'H'
    | none => operands.length > 1 || (recursive && targets.any (·.found)) ||
        (recursive && operands = [""])
  let s : LineSearch :=
    { pattern := pattern, ignoresCase := g.last? ['i', 'y', '\x03'] |>.any (· ≠ '\x03')
      inverted := g.has 'v', limit? := limit?, before := before, behind := behind
      showsCount := g.has 'c'
      showsNames? := match g.last? ['l', 'L'] with
        | some key => some (key = 'l')
        | none => none
      quiet := g.has 'q', onlyMatches := g.has 'o', numbersLines := g.has 'n'
      numbersBytes := g.has 'b', titled := titled
      asText := g.has 'a' || g.value? '\x06' = some "text"
      lineEnd := if g.has 'z' then "\x00" else "\n"
      nameEnd := if g.has 'Z' then "\x00" else "\n", indents := g.has 'T' }
  let mut total := 0
  let mut failed := false
  for target in targets do
    if s.quiet && total > 0 then pure ()
    else
      match ← Tool.load target.path with
      | .error cause =>
        if !g.has 's' then Tool.warn (target.path ++ ": " ++ cause.number.text)
        failed := true
      | .ok text =>
        let title := if target.path = "-" then (g.value? '\x05').getD "(standard input)"
          else target.path
        let (found, hidden) ← s.run title text
        if hidden then
          Tool.print (i.name ++ ": " ++ title ++ ": binary file matches\n")
        match s.showsNames? with
        | some matching =>
          if !s.quiet && (found > 0) = matching then Tool.print (title ++ s.nameEnd)
        | none =>
          if s.showsCount && !s.quiet then
            Tool.print ((if s.titled then title ++ (if s.nameEnd = "\x00" then "\x00" else ":")
              else "") ++ toString found ++ "\n")
        total := total + found
  let earlier := (← get).status
  Tool.mark (if s.quiet && total > 0 then 0 else if failed || earlier = 2 then 2
    else if total > 0 then 0 else 1)

/-- Search lines for patterns of the basic form. -/
def grep : Program := searchWith 'G'

/-- Search lines for patterns of the extended form. -/
def egrep : Program := do
  let i ← Tool.invocation
  Tool.printError (lastPart i.name ++ ": warning: egrep is obsolescent; using grep -E")
  withReader (fun i => { i with name := "grep" }) (searchWith 'E')

def fgrep : Program := do
  let i ← Tool.invocation
  Tool.printError (lastPart i.name ++ ": warning: fgrep is obsolescent; using grep -F")
  withReader (fun i => { i with name := "grep" }) (searchWith 'F')

end Launchpad.Machine.Programs
