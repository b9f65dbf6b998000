import Launchpad.Machine.Programs.Echo
import Launchpad.Regex.Matching

/-!
Scripts of the stream editor: which lines a command is for, what it does, and how scripts are read.
Blocks are flat: a command that opens a block knows where to go on when the block is passed over.
-/

namespace Launchpad.Machine.Programs.Editing

open Regex (Pattern Dialect)
open Text (Glyph)

/-- A pattern with what is asked of it. Without a pattern, the one that was used last is meant. -/
structure Search where
  pattern? : Option Pattern
  ignoresCase : Bool := false
  manyLines : Bool := false
  deriving Inhabited

inductive Address where
  | line (number : Nat)
  | last
  | fitting (s : Search)
  /-- Every so many lines from one on. -/
  | every (first step : Nat)
  deriving Inhabited

inductive RangeEnd where
  | at (a : Address)
  /-- So many lines later. -/
  | after (count : Nat)
  /-- At the next line whose number is a multiple. -/
  | multiple (n : Nat)
  deriving Inhabited

structure Selection where
  first? : Option Address := none
  until? : Option RangeEnd := none
  negated : Bool := false
  deriving Inhabited

inductive CaseChange where
  | upper
  | lower
  | none
  | nextUpper
  | nextLower
  deriving DecidableEq, Repr, Inhabited

inductive Part where
  | text (text : Octets)
  | group (number : Nat)
  | change (c : CaseChange)
  deriving Repr, Inhabited

structure Substitution where
  search : Search
  parts : List Part
  /-- The first match that is replaced. -/
  number : Nat := 1
  all : Bool := false
  prints : Bool := false
  file? : Option Octets := none
  deriving Inhabited

inductive Action where
  | openBlock (behind : Nat)
  | nothing
  | number
  | append (text : Octets)
  | insert (text : Octets)
  | change (text : Octets)
  | jump (target? : Option Octets)
  | jumpIfDone (target? : Option Octets)
  | jumpUnlessDone (target? : Option Octets)
  | delete
  | deleteLine
  | fileName
  | get
  | getMore
  | hold
  | holdMore
  | list (width? : Option Nat)
  | next
  | nextMore
  | print
  | printLine
  | quit (status : Nat)
  | quitSilently (status : Nat)
  | readFile (path : Octets)
  | readLine (path : Octets)
  | substitute (s : Substitution)
  | write (path : Octets)
  | writeLine (path : Octets)
  | exchange
  | translate (pairs : List (Glyph × Glyph))
  | empty
  deriving Inhabited

structure Instruction where
  selection : Selection
  action : Action
  deriving Inhabited

/-- Why a script cannot be read, and how many characters are left behind that point. -/
structure ScriptError where
  text : Octets
  left : Nat
  /-- The mistake concerns the script as a whole and no place in it. -/
  isGlobal : Bool := false

/-- Reading a script: what is left of it, the commands so far, the blocks that are open, and the
labels with the places that they name. -/
structure ScriptReading where
  rest : List Char
  instructions : Array Instruction := #[]
  blocks : List (Nat × Nat) := []
  labels : List (Octets × Nat) := []

abbrev Reader := StateT ScriptReading (Except ScriptError)

namespace Reader

def rest : Reader (List Char) := return (← get).rest

def goOn (cs : List Char) : Reader Unit := modify fun s => { s with rest := cs }

def wrong {α : Type} (text : Octets) : Reader α := do
  throw { text := text, left := (← rest).length }

def skip (p : Char → Bool) : Reader Unit := modify fun s => { s with rest := s.rest.dropWhile p }

def isGap (c : Char) : Bool := [' ', '\t', '\n', '\r', '\x0b', '\x0c'].contains c

def number? : Reader (Option Nat) := do
  let cs ← rest
  let digits := cs.takeWhile Char.isDigit
  goOn (cs.drop digits.length)
  return natural? digits

/-- The members of a set up to its closing bracket, and what is behind it. `first` tells whether the
next character is the first member. `fuel` bounds the length. -/
def untilSetEnd (first : Bool) : Nat → List Char → Option (List Char × List Char)
  | 0, _ => none
  | fuel + 1, cs =>
    let add (own rest : List Char) (first : Bool) : Option (List Char × List Char) :=
      (untilSetEnd first fuel rest).map fun (inner, rest) => (own ++ inner, rest)
    match cs with
    | [] => none
    | '^' :: rest => add ['^'] rest first
    | ']' :: rest => if first then add [']'] rest false else some ([']'], rest)
    | '[' :: c :: rest =>
      if c = ':' || c = '.' || c = '=' then
        let name := rest.takeWhile (· ≠ c)
        match rest.drop name.length with
        | d :: ']' :: behind => add (['[', c] ++ name ++ [d, ']']) behind false
        | _ => add ['['] (c :: rest) false
      else add ['['] (c :: rest) false
    | c :: rest => add [c] rest false

/-- The text up to a delimiter, backslashes kept but for those in front of the delimiter. In a
pattern, the delimiter counts for nothing inside a set. `fuel` bounds the length. -/
def untilDelimiter (delimiter : Char) (isPattern : Bool) : Nat → List Char →
    Option (List Char × List Char)
  | 0, _ => none
  | fuel + 1, cs =>
    let add (own : List Char) (rest : List Char) : Option (List Char × List Char) :=
      (untilDelimiter delimiter isPattern fuel rest).map fun (inner, rest) => (own ++ inner, rest)
    match cs with
    | [] => none
    | '\\' :: c :: rest =>
      if c = delimiter && c ≠ '\\' then add (if c = '&' && !isPattern then ['\\', c] else [c]) rest
      else if c = '\n' && isPattern then add ['\n'] rest
      else add ['\\', c] rest
    | c :: rest =>
      if c = delimiter then some ([], rest)
      else if c = '\n' && isPattern then none
      else if c = '[' && isPattern then
        match untilSetEnd true (rest.length + 1) rest with
        | some (inner, behind) => add ('[' :: inner) behind
        | none => add [c] rest
      else add [c] rest

/-- The character that an escape by number stands for: a letter for its base, and digits. -/
def numbered? (letter : Char) (cs : List Char) : Option (Char × List Char) :=
  let take (count : Nat) (p : Char → Bool) : List Char := (cs.take count).takeWhile p
  match letter with
  | 'd' =>
    let digits := take 3 Char.isDigit
    (natural? digits).map fun n => (Char.ofNat (n % 256), cs.drop digits.length)
  | 'o' =>
    let digits := take 3 isOctalDigit
    if digits = [] then none else some (octalByte digits, cs.drop digits.length)
  | 'x' =>
    let digits := take 2 isHexDigit
    if digits = [] then none
    else some (Char.ofNat (hexValue digits), cs.drop digits.length)
  | 'c' =>
    match cs with
    | c :: rest => some (Char.ofNat (c.toUpper.toNat ^^^ 64), rest)
    | [] => none
  | _ => none

/-- The characters that have a letter behind a backslash in scripts. -/
def letters : List (Char × Char) :=
  [('a', '\x07'), ('f', '\x0c'), ('n', '\n'), ('r', '\r'), ('t', '\t'), ('v', '\x0b')]

/-- Replace the escapes of a pattern that stand for characters. `fuel` bounds the length. -/
def unescapePattern : Nat → List Char → List Char
  | 0, _ => []
  | fuel + 1, cs =>
    match cs with
    | [] => []
    | '\\' :: c :: rest =>
      match letters.lookup c with
      | some b => b :: unescapePattern fuel rest
      | none =>
        match numbered? c rest with
        | some (b, rest) => b :: unescapePattern fuel rest
        | none => '\\' :: c :: unescapePattern fuel rest
    | c :: rest => c :: unescapePattern fuel rest

/-- Turn the text of a pattern into a pattern; the empty text stands for the last one. -/
def compile (extended : Bool) (text : List Char) : Reader (Option Pattern) := do
  if text = [] then return none
  else
    let plain := unescapePattern (text.length + 1) text
    match Pattern.read { extended := extended } (Octets.glyphs (String.ofList plain)) with
    | .ok p => return some p
    | .error why => wrong why.message

def address? (extended : Bool) : Reader (Option Address) := do
  let cs ← rest
  let fitting (delimiter : Char) (behind : List Char) : Reader (Option Address) := do
    match untilDelimiter delimiter true (behind.length + 1) behind with
    | none =>
      goOn []
      wrong "unterminated address regex"
    | some (text, behind) =>
      let flags := behind.takeWhile fun c => c = 'I' || c = 'M'
      goOn (behind.drop flags.length)
      let p? ← compile extended text
      return some (.fitting ⟨p?, flags.contains 'I', flags.contains 'M'⟩)
  match cs with
  | '$' :: behind =>
    goOn behind
    return some .last
  | '/' :: behind => fitting '/' behind
  | '\\' :: c :: behind => fitting c behind
  | _ =>
    match ← number? with
    | none => return none
    | some first =>
      skip isGap
      match ← rest with
      | '~' :: behind =>
        goOn behind
        return some (.every first ((← number?).getD 0))
      | _ => return some (.line first)

def selection (extended : Bool) : Reader Selection := do
  match ← address? extended with
  | none => return {}
  | some first =>
    skip isGap
    let until? ← match ← rest with
      | ',' :: behind =>
        goOn behind
        skip isGap
        match ← rest with
        | '+' :: behind =>
          goOn behind
          match ← number? with
          | some n => pure (some (.after n))
          | none => wrong "unexpected \x60,'"
        | '~' :: behind =>
          goOn behind
          match ← number? with
          | some n => pure (some (.multiple n))
          | none => wrong "unexpected \x60,'"
        | _ =>
          match ← address? extended with
          | some a => pure (some (.at a))
          | none =>
            match ← rest with
            | _ :: behind => goOn behind
            | [] => pure ()
            wrong "unexpected \x60,'"
      | _ => pure none
    match first, until? with
    | .line 0, some (.at (.fitting _)) => pure ()
    | .line 0, _ =>
      match ← rest with
      | _ :: behind => goOn behind
      | [] => pure ()
      wrong "invalid usage of line address 0"
    | _, _ => pure ()
    return { first? := some first, until? := until? }

def label : Reader (Option Octets) := do
  skip fun c => c = ' ' || c = '\t'
  let cs ← rest
  let name := cs.takeWhile fun c => !isGap c && c ≠ ';'
  goOn (cs.drop name.length)
  return if name = [] then none else some (String.ofList name)

def fileName : Reader Octets := do
  skip fun c => c = ' ' || c = '\t'
  let cs ← rest
  let name := cs.takeWhile (· ≠ '\n')
  if name = [] then wrong "missing filename in r/R/w/W commands"
  goOn (cs.drop (name.length + 1))
  return String.ofList name

/-- The lines of a text behind a command: they go on behind a backslash. `fuel` bounds the
length. -/
def textLines : Nat → List Char → List Char × List Char
  | 0, cs => ([], cs)
  | fuel + 1, cs =>
    match cs with
    | [] => (['\n'], [])
    | '\n' :: rest => (['\n'], rest)
    | ['\\'] => (['\n'], [])
    | '\\' :: c :: rest =>
      let (own, rest) := match letters.lookup c, numbered? c rest with
        | some b, _ => (b, rest)
        | none, some (b, rest) => (b, rest)
        | none, none => (c, rest)
      let (text, rest) := textLines fuel rest
      (own :: text, rest)
    | c :: rest =>
      let (text, rest) := textLines fuel rest
      (c :: text, rest)

def text : Reader Octets := do
  skip fun c => c = ' ' || c = '\t'
  match ← rest with
  | [] => wrong "expected \\ after \x60a', \x60c' or \x60i'"
  | ['\\'] =>
    goOn []
    return ""
  | '\\' :: cs =>
    let behind := cs.dropWhile fun c => c = ' ' || c = '\t'
    match behind with
    | '\n' :: more =>
      let (own, left) := textLines (more.length + 1) more
      goOn left
      return String.ofList own
    | _ =>
      let (own, left) := textLines (cs.length + 1) (cs.drop 1)
      goOn left
      return String.ofList (cs.take 1 ++ own)
  | cs =>
    let (own, left) := textLines (cs.length + 1) cs
    goOn left
    return String.ofList own

/-- Read the parts of a replacement. `fuel` bounds their number. -/
def parts : Nat → List Char → List Part
  | 0, _ => []
  | fuel + 1, cs =>
    let text (own : List Char) (rest : List Char) : List Part :=
      match parts fuel rest with
      | .text t :: more => .text (String.ofList own ++ t) :: more
      | more => .text (String.ofList own) :: more
    match cs with
    | [] => []
    | '&' :: rest => .group 0 :: parts fuel rest
    | '\\' :: c :: rest =>
      if c.isDigit then .group (c.toNat - '0'.toNat) :: parts fuel rest
      else match c with
        | 'U' => .change .upper :: parts fuel rest
        | 'L' => .change .lower :: parts fuel rest
        | 'E' => .change .none :: parts fuel rest
        | 'u' => .change .nextUpper :: parts fuel rest
        | 'l' => .change .nextLower :: parts fuel rest
        | c =>
          match letters.lookup c, numbered? c rest with
          | some b, _ => text [b] rest
          | none, some (b, rest) => text [b] rest
          | none, none => text [c] rest
    | c :: rest => text [c] rest

def groupCount : Pattern → Nat
  | .sequence a b => groupCount a + groupCount b
  | .either a b => groupCount a + groupCount b
  | .repeated _ _ a => groupCount a
  | .group _ a => groupCount a + 1
  | _ => 0

structure Flags where
  number? : Option Nat := none
  all : Bool := false
  prints : Bool := false
  ignoresCase : Bool := false
  manyLines : Bool := false
  file? : Option Octets := none

/-- Read the flags of a substitution. `fuel` bounds their number. -/
def flags : Nat → Flags → Reader Flags
  | 0, f => return f
  | fuel + 1, f => do
    match ← rest with
    | [] => return f
    | c :: behind =>
      let go (f : Flags) : Reader Flags := do
        goOn behind
        flags fuel f
      match c with
      | 'g' =>
        if f.all then
          goOn behind
          wrong "multiple \x60g' options to \x60s' command"
        else go { f with all := true }
      | 'p' =>
        if f.prints then
          goOn behind
          wrong "multiple \x60p' options to \x60s' command"
        else go { f with prints := true }
      | 'i' => go { f with ignoresCase := true }
      | 'I' => go { f with ignoresCase := true }
      | 'm' => go { f with manyLines := true }
      | 'M' => go { f with manyLines := true }
      | 'e' => go f
      | 'w' =>
        goOn behind
        return { f with file? := some (← fileName) }
      | c =>
        if c.isDigit then
          match ← number? with
          | some 0 => wrong "number option to \x60s' command may not be zero"
          | some n =>
            if f.number?.isSome then wrong "multiple number options to \x60s' command"
            else flags fuel { f with number? := some n }
          | none => return f
        else if c = '\x7d' || c = '#' || c = ';' || isGap c then return f
        else
          goOn behind
          wrong "unknown option to \x60s'"

def substitution (extended : Bool) : Reader Substitution := do
  let unterminated {α : Type} : Reader α := do
    goOn []
    wrong "unterminated \x60s' command"
  match ← rest with
  | [] => unterminated
  | delimiter :: behind =>
    match untilDelimiter delimiter true (behind.length + 1) behind with
    | none => unterminated
    | some (pattern, behind) =>
      match untilDelimiter delimiter false (behind.length + 1) behind with
      | none => unterminated
      | some (replacement, behind) =>
        goOn behind
        let f ← flags (behind.length + 1) {}
        let p? ← compile extended pattern
        let own := parts (replacement.length + 1) replacement
        let most := own.foldl (fun n p => match p with
          | .group k => max n k
          | _ => n) 0
        match p? with
        | some p =>
          if most > groupCount p then
            wrong ("invalid reference \\" ++ toString most ++ " on \x60s' command's RHS")
        | none => pure ()
        return {
          search := ⟨p?, f.ignoresCase, f.manyLines⟩, parts := own, number := f.number?.getD 1
          all := f.all, prints := f.prints, file? := f.file? }

def sideOf : Nat → List Glyph → List Glyph
  | 0, _ => []
  | fuel + 1, gs =>
    match gs with
    | .char '\\' :: .char c :: rest =>
      match letters.lookup c with
      | some b => .char b :: sideOf fuel rest
      | none => if c = '\\' then .char c :: sideOf fuel rest
        else .char '\\' :: .char c :: sideOf fuel rest
    | g :: rest => g :: sideOf fuel rest
    | [] => []

def translation : Reader (List (Glyph × Glyph)) := do
  let unterminated {α : Type} : Reader α := do
    goOn []
    wrong "unterminated \x60y' command"
  match ← rest with
  | [] => unterminated
  | delimiter :: behind =>
    match untilDelimiter delimiter false (behind.length + 1) behind with
    | none => unterminated
    | some (first, behind) =>
      match untilDelimiter delimiter false (behind.length + 1) behind with
      | none => unterminated
      | some (second, behind) =>
        goOn behind
        let side (cs : List Char) : List Glyph :=
          sideOf (cs.length + 1) (Octets.glyphs (String.ofList cs))
        let a := side first
        let b := side second
        if a.length ≠ b.length then wrong "strings for \x60y' command are different lengths"
        return a.zip b

/-- A command has to end here: at a semicolon, at the end of the line, or in front of a closing
brace or a comment. -/
def commandEnd : Reader Unit := do
  skip fun c => c = ' ' || c = '\t' || c = '\r'
  match ← rest with
  | [] => return ()
  | c :: behind =>
    if c = ';' || c = '\n' then goOn behind
    else if c = '\x7d' || c = '#' then return ()
    else
      goOn behind
      wrong "extra characters after command"

def add (s : Selection) (a : Action) : Reader Unit :=
  modify fun r => { r with instructions := r.instructions.push ⟨s, a⟩ }

/-- Read a script. `fuel` bounds the number of commands. -/
def script (extended : Bool) (length : Nat) : Nat → Reader Unit
  | 0 => return ()
  | fuel + 1 => do
    skip fun c => isGap c || c = ';'
    if (← rest) = [] then return ()
    let s ← selection extended
    skip isGap
    let marks := (← rest).takeWhile fun c => c = '!' || isGap c
    goOn ((← rest).drop marks.length)
    let s := { s with negated := marks.contains '!' }
    match ← rest with
    | [] => wrong "missing command"
    | c :: behind =>
      goOn behind
      let plain (a : Action) : Reader Unit := do
        commandEnd
        add s a
      let single : Reader Unit := do
        if s.until?.isSome then wrong "command only uses one address"
      match c with
      | '#' =>
        if s.first?.isSome then wrong "comments don't accept any addresses"
        skip (· ≠ '\n')
      | ':' =>
        if s.first?.isSome then wrong ": doesn't want any addresses"
        match ← label with
        | none => wrong "\":\" lacks a label"
        | some name =>
          modify fun r => { r with labels := (name, r.instructions.size) :: r.labels }
      | '\x7b' =>
        modify fun r => { r with
          blocks := (r.instructions.size, length - behind.length) :: r.blocks }
        add s (.openBlock 0)
      | '\x7d' =>
        if s.first?.isSome then wrong "\x7d doesn't want any addresses"
        let r ← get
        match r.blocks with
        | [] => wrong "unexpected \x60\x7d'"
        | (start, _) :: blocks =>
          let opening := (r.instructions[start]?).getD default
          set { r with
            blocks := blocks
            instructions := r.instructions.setIfInBounds start
              { opening with action := .openBlock r.instructions.size } }
          commandEnd
      | '=' => plain .number
      | 'a' => add s (.append (← text))
      | 'i' => add s (.insert (← text))
      | 'c' => add s (.change (← text))
      | 'b' =>
        let target? ← label
        plain (.jump target?)
      | 't' =>
        let target? ← label
        plain (.jumpIfDone target?)
      | 'T' =>
        let target? ← label
        plain (.jumpUnlessDone target?)
      | 'd' => plain .delete
      | 'D' => plain .deleteLine
      | 'F' => plain .fileName
      | 'g' => plain .get
      | 'G' => plain .getMore
      | 'h' => plain .hold
      | 'H' => plain .holdMore
      | 'l' =>
        skip fun c => c = ' ' || c = '\t'
        let width? ← number?
        plain (.list width?)
      | 'n' => plain .next
      | 'N' => plain .nextMore
      | 'p' => plain .print
      | 'P' => plain .printLine
      | 'q' =>
        single
        skip fun c => c = ' ' || c = '\t'
        let status ← number?
        plain (.quit (status.getD 0))
      | 'Q' =>
        single
        skip fun c => c = ' ' || c = '\t'
        let status ← number?
        plain (.quitSilently (status.getD 0))
      | 'r' => add s (.readFile (← fileName))
      | 'R' => add s (.readLine (← fileName))
      | 's' =>
        let own ← substitution extended
        if own.file?.isSome then add s (.substitute own) else plain (.substitute own)
      | 'w' => add s (.write (← fileName))
      | 'W' => add s (.writeLine (← fileName))
      | 'x' => plain .exchange
      | 'y' => plain (.translate (← translation))
      | 'z' => plain .empty
      | c => wrong ("unknown command: \x60" ++ String.ofList [c] ++ "'")
    script extended length fuel

def wholeScript (extended : Bool) (length : Nat) : Reader Unit := do
  script extended length (length + 1)
  let r ← get
  match r.blocks with
  | (_, _) :: _ => throw { text := "unmatched \x60\x7b'", left := length }
  | [] => pure ()
  for i in r.instructions do
    let target? := match i.action with
      | .jump t => t
      | .jumpIfDone t => t
      | .jumpUnlessDone t => t
      | _ => none
    match target? with
    | some name =>
      if (r.labels.lookup name).isNone then
        throw { text := "can't find label for jump to \x60" ++ name ++ "'", left := 0
                isGlobal := true }
    | none => pure ()

end Reader

end Launchpad.Machine.Programs.Editing
