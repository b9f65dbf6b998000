import Launchpad.Machine.Programs.Facts
import Launchpad.Machine.Programs.Files
import Launchpad.Regex.Matching
import Launchpad.Script.Field

/-!
Expressions that say what is to be found below directories and what is done with it. Options that
concern the whole search may stand anywhere among the conditions and always hold.
-/

namespace Launchpad.Machine.Programs.Finding

open Regex (Pattern)

inductive Amount where
  | more (n : Nat)
  | less (n : Nat)
  | just (n : Nat)
  deriving DecidableEq, Repr, Inhabited

def Amount.fits (n : Int) : Amount → Bool
  | .more m => n > m
  | .less m => n < m
  | .just m => n = m

/-- How permissions are compared: as a whole, or by some bits, all of which or any of which have to
be there. -/
inductive ModeTest where
  | whole
  | all
  | any
  deriving DecidableEq, Repr, Inhabited

inductive Condition where
  | name (ignoresCase : Bool) (pattern : Octets)
  | path (ignoresCase : Bool) (pattern : Octets)
  | target (ignoresCase : Bool) (pattern : Octets)
  | regex (ignoresCase : Bool) (pattern : Pattern)
  /-- The letter of the kind is among these. -/
  | kind (letters : List Char)
  | empty
  /-- The size in units, each begun one counted. -/
  | size (amount : Amount) (unit : Nat)
  | newer (than : Timestamp)
  /-- The age in units of seconds. -/
  | age (amount : Amount) (seconds : Nat) (roundsUp : Bool)
  | mode (test : ModeTest) (bits : Nat)
  | names (amount : Amount)
  | serial (amount : Amount)
  | right (bit : Nat)
  | owned (byUser : Bool)
  deriving Inhabited

inductive Action where
  | print (lineEnd : Octets)
  | format (text : Octets)
  | run (argv : List Octets) (inDirectory : Bool)
  /-- Run one program for everything. -/
  | runLater (number : Nat)
  | delete
  | prune
  | quit
  deriving Inhabited

inductive Expression where
  | const (b : Bool)
  | condition (c : Condition)
  | action (a : Action)
  | both (first second : Expression)
  | either (first second : Expression)
  | not (body : Expression)
  /-- The value is that of the second. -/
  | sequence (first second : Expression)
  deriving Inhabited

/-- Whether an expression does something that takes the place of printing. -/
def Expression.acts : Expression → Bool
  | .action .prune => false
  | .action .quit => false
  | .action _ => true
  | .const _ => false
  | .condition _ => false
  | .both a b => a.acts || b.acts
  | .either a b => a.acts || b.acts
  | .sequence a b => a.acts || b.acts
  | .not a => a.acts

structure Settings where
  follows : Bool := false
  depthFirst : Bool := false
  least : Nat := 0
  greatest? : Option Nat := none
  /-- How regular expressions are written. -/
  regexKind : Octets := "emacs"
  /-- The programs that run once for everything. -/
  batches : List (List Octets) := []

structure Reading where
  rest : List Octets
  settings : Settings

abbrev Reader := StateT Reading Tool

namespace Reader

def adjust (f : Settings → Settings) : Reader Unit :=
  modify fun r => { r with settings := f r.settings }

/-- The number of an amount with a sign in front. -/
def amount? (text : Octets) : Option Amount :=
  match text.toList with
  | '+' :: digits => (natural? digits).map .more
  | '-' :: digits => (natural? digits).map .less
  | digits => (natural? digits).map .just

def argument (word : Octets) : Reader Octets := do
  match (← get).rest with
  | arg :: rest =>
    modify fun r => { r with rest := rest }
    return arg
  | [] => StateT.lift (Tool.fail 1 ("missing argument to \x60" ++ word ++ "'"))

def amount (word : Octets) : Reader Amount := do
  let text ← argument word
  match amount? text with
  | some a => return a
  | none =>
    StateT.lift (Tool.fail 1 ("invalid argument \x60" ++ text ++ "' to \x60" ++ word ++ "'"))

def depth (word : Octets) : Reader Nat := do
  let text ← argument word
  match natural? text.toList with
  | some n => return n
  | none => StateT.lift (Tool.fail 1 ("Expected a positive decimal integer argument to " ++ word ++
      ", but got " ++ Quoting.plain text))

/-- The time of a file that is named by the argument of a word. -/
def timeOf (word : Octets) : Reader Timestamp := do
  let path ← argument word
  match ← StateT.lift (entryOf path) with
  | .ok (_, e) => return e.modified
  | .error number => StateT.lift (Tool.fail 1 (Quoting.plain path ++ ": " ++ number.text))

def kinds (word : Octets) : Reader (List Char) := do
  let text ← argument word
  let letters := (text.splitOn ",").filterMap fun part =>
    match part.toList with
    | [c] => some c
    | _ => none
  match letters.find? fun c => !"bcdpfls".toList.contains c with
  | some c => StateT.lift (Tool.fail 1 ("Unknown argument to " ++ word ++ ": " ++
      String.ofList [c]))
  | none =>
    if letters.isEmpty then
      StateT.lift (Tool.fail 1 ("Arguments to " ++ word ++
        " should contain at least one letter"))
    else return letters

def size (word : Octets) : Reader Condition := do
  let text ← argument word
  let units : List (Char × Nat) :=
    [('b', 512), ('c', 1), ('w', 2), ('k', 1024), ('M', 1048576), ('G', 1073741824)]
  let last := text.toList.getLast?.getD ' '
  let (number, unit) := match units.lookup last with
    | some unit => ((text.dropEnd 1).toString, unit)
    | none => (text, 512)
  match amount? number with
  | some a => return .size a unit
  | none => StateT.lift (Tool.fail 1 ("invalid -size type \x60" ++ String.ofList [last] ++ "'"))

def mode (word : Octets) : Reader Condition := do
  let text ← argument word
  let (test, written) := match text.toList with
    | '-' :: rest => (ModeTest.all, String.ofList rest)
    | '/' :: rest => (ModeTest.any, String.ofList rest)
    | _ => (ModeTest.whole, text)
  match Permissions.change? 0 false written 0 with
  | some bits => return .mode test bits
  | none => StateT.lift (Tool.fail 1 ("invalid mode " ++ Quoting.plain text))

/-- A pattern in the form in which plus and question mark repeat, and groups and alternatives have a
backslash. -/
def withPlainRepeats (inSet : Bool) : List Text.Glyph → List Text.Glyph
  | [] => []
  | .char '\\' :: g :: rest => .char '\\' :: g :: withPlainRepeats inSet rest
  | .char c :: rest =>
    if inSet then .char c :: withPlainRepeats (c ≠ ']') rest
    else if c = '+' || c = '?' then .char '\\' :: .char c :: withPlainRepeats false rest
    else .char c :: withPlainRepeats (c = '[') rest
  | g :: rest => g :: withPlainRepeats inSet rest

def regex (word : Octets) : Reader Pattern := do
  let text ← argument word
  let kind := (← get).settings.regexKind
  let extended := ["posix-extended", "egrep", "posix-egrep", "awk", "posix-awk", "gnu-awk"].contains
    kind
  let signs := Octets.glyphs text
  let signs := if extended || kind.startsWith "posix" || kind = "grep" || kind = "sed" ||
    kind = "ed" then signs else withPlainRepeats false signs
  match Pattern.read { extended := extended } signs with
  | .ok p => return p
  | .error e =>
    StateT.lift (Tool.fail 1 ("failed to compile regular expression '" ++ text ++ "': " ++
      e.message))

/-- A command up to its end: a semicolon, or a plus behind a pair of braces. -/
def command (word : Octets) : Reader (List Octets × Bool) := do
  let words := (← get).rest
  let braces : Octets := "\x7b\x7d"
  let ending? := (List.range words.length).find? fun k =>
    words[k]? = some ";" || (words[k]? = some "+" && k > 0 && words[k - 1]? = some braces)
  match ending? with
  | none => StateT.lift (Tool.fail 1 ("missing argument to \x60" ++ word ++ "'"))
  | some k =>
    if k = 0 then StateT.lift (Tool.fail 1 ("invalid argument \x60;' to \x60" ++ word ++ "'"))
    modify fun r => { r with rest := r.rest.drop (k + 1) }
    let isBatch := words[k]? = some "+"
    return (words.take (if isBatch then k - 1 else k), isBatch)

/-- Whether the user or group that the argument of a word names is the one of this machine. -/
def ownerIsUser (word kind own : Octets) : Reader Bool := do
  let text ← argument word
  if text = own then return true
  else if text = "root" || (natural? text.toList).isSome then return false
  else StateT.lift (Tool.fail 1 (Quoting.plain text ++ " is not the name of " ++
    (if kind = "user" then "a known user" else "an existing group")))

/-- Read a condition, an action or an option of the whole search, behind its word. -/
def primary (word : Octets) : Reader Expression := do
  let condition (c : Condition) : Reader Expression := return .condition c
  let setting (f : Settings → Settings) : Reader Expression := do
    adjust f
    return .const true
  match word with
  | "-name" => condition (.name false (← argument word))
  | "-iname" => condition (.name true (← argument word))
  | "-path" => condition (.path false (← argument word))
  | "-wholename" => condition (.path false (← argument word))
  | "-ipath" => condition (.path true (← argument word))
  | "-iwholename" => condition (.path true (← argument word))
  | "-lname" => condition (.target false (← argument word))
  | "-ilname" => condition (.target true (← argument word))
  | "-regex" => condition (.regex false (← regex word))
  | "-iregex" => condition (.regex true (← regex word))
  | "-type" => condition (.kind (← kinds word))
  | "-xtype" => condition (.kind (← kinds word))
  | "-empty" => condition .empty
  | "-size" => condition (← size word)
  | "-newer" => condition (.newer (← timeOf word))
  | "-anewer" => condition (.newer (← timeOf word))
  | "-cnewer" => condition (.newer (← timeOf word))
  | "-mtime" => condition (.age (← amount word) 86400 false)
  | "-atime" => condition (.age (← amount word) 86400 false)
  | "-ctime" => condition (.age (← amount word) 86400 false)
  | "-mmin" => condition (.age (← amount word) 60 true)
  | "-amin" => condition (.age (← amount word) 60 true)
  | "-cmin" => condition (.age (← amount word) 60 true)
  | "-perm" => condition (← mode word)
  | "-links" => condition (.names (← amount word))
  | "-inum" => condition (.serial (← amount word))
  | "-samefile" =>
    let path ← argument word
    match ← StateT.lift (ownEntryOf path) with
    | .ok (_, e) => condition (.serial (.just e.serial))
    | .error number => StateT.lift (Tool.fail 1 (Quoting.plain path ++ ": " ++ number.text))
  | "-readable" => condition (.right 8)
  | "-writable" => condition (.right 7)
  | "-executable" => condition (.right 6)
  | "-user" => condition (.owned (← ownerIsUser word "user" thisMachine.user))
  | "-group" => condition (.owned (← ownerIsUser word "group" thisMachine.group))
  | "-nouser" => condition (.owned false)
  | "-nogroup" => condition (.owned false)
  | "-true" => return .const true
  | "-false" => return .const false
  | "-print" => return .action (.print "\n")
  | "-print0" => return .action (.print "\x00")
  | "-printf" => return .action (.format (← argument word))
  | "-prune" => return .action .prune
  | "-quit" => return .action .quit
  | "-delete" =>
    adjust fun s => { s with depthFirst := true }
    return .action .delete
  | "-exec" => commandAction false
  | "-execdir" => commandAction true
  | "-maxdepth" =>
    let n ← depth word
    setting fun s => { s with greatest? := some n }
  | "-mindepth" =>
    let n ← depth word
    setting fun s => { s with least := n }
  | "-depth" => setting fun s => { s with depthFirst := true }
  | "-d" => setting fun s => { s with depthFirst := true }
  | "-follow" => setting fun s => { s with follows := true }
  | "-regextype" =>
    let kind ← argument word
    setting fun s => { s with regexKind := kind }
  | word =>
    if ["-mount", "-xdev", "-noleaf", "-warn", "-nowarn", "-daystart", "-ignore_readdir_race",
      "-noignore_readdir_race"].contains word then return .const true
    else StateT.lift (Tool.fail 1 ("unknown predicate \x60" ++ word ++ "'"))
where
  /-- Read the command of an action. -/
  commandAction (inDirectory : Bool) : Reader Expression := do
    let (argv, isBatch) ← command word
    if isBatch then
      let number := (← get).settings.batches.length
      adjust fun s => { s with batches := s.batches ++ [argv] }
      return .action (.runLater number)
    else return .action (.run argv inDirectory)

def operator : Octets → Octets
  | "-and" => "-a"
  | "-or" => "-o"
  | "-not" => "!"
  | word => word

mutual

/-- Read expressions with commas between them, which bind least. -/
def list : Nat → Reader Expression
  | 0 => return .const true
  | fuel + 1 => do
    let first ← choice fuel
    match (← get).rest with
    | "," :: rest =>
      modify fun r => { r with rest := rest }
      return .sequence first (← list fuel)
    | _ => return first

def choice : Nat → Reader Expression
  | 0 => return .const true
  | fuel + 1 => do
    let first ← conjunction fuel
    match (← get).rest with
    | word :: rest =>
      if operator word = "-o" then
        modify fun r => { r with rest := rest }
        if rest.isEmpty then
          StateT.lift (Tool.fail 1 ("expected an expression after '" ++ word ++ "'"))
        return .either first (← choice fuel)
      else return first
    | [] => return first

def conjunction : Nat → Reader Expression
  | 0 => return .const true
  | fuel + 1 => do
    let first ← single fuel
    match (← get).rest with
    | [] => return first
    | word :: rest =>
      if operator word = "-a" then
        modify fun r => { r with rest := rest }
        if rest.isEmpty then
          StateT.lift (Tool.fail 1 ("expected an expression after '" ++ word ++ "'"))
        return .both first (← conjunction fuel)
      else if operator word = "-o" || word = "," || word = ")" then return first
      else return .both first (← conjunction fuel)

/-- Read one condition or action, or an expression between brackets. -/
def single : Nat → Reader Expression
  | 0 => return .const true
  | fuel + 1 => do
    match (← get).rest with
    | [] => return .const true
    | word :: rest =>
      modify fun r => { r with rest := rest }
      match operator word with
      | "!" =>
        if rest.isEmpty then
          StateT.lift (Tool.fail 1 ("expected an expression after '" ++ word ++ "'"))
        return .not (← single fuel)
      | "(" =>
        if rest.head? = some ")" then
          StateT.lift (Tool.fail 1 "invalid expression; empty parentheses are not allowed.")
        let body ← list fuel
        match (← get).rest with
        | ")" :: rest =>
          modify fun r => { r with rest := rest }
          return body
        | _ =>
          StateT.lift (Tool.fail 1 ("invalid expression; I was expecting to find a ')' " ++
            "somewhere but did not see one."))
      | ")" =>
        StateT.lift (Tool.fail 1 "invalid expression; you have too many ')'")
      | plain =>
        if plain = "-a" || plain = "-o" || plain = "," then
          StateT.lift (Tool.fail 1 ("invalid expression; you have used a binary operator '" ++
            word ++ "' with nothing before it."))
        else if word.startsWith "-" && word.length > 1 then primary word
        else StateT.lift (do
          Tool.warn ("paths must precede expression: \x60" ++ word ++ "'")
          Tool.exit 1)

end

def whole : Reader Expression := do
  let words := (← get).rest
  if words.isEmpty then return .const true
  let e ← list (4 * words.length + 4)
  match (← get).rest with
  | [] => return e
  | _ => StateT.lift (Tool.fail 1 "you have too many ')'")

end Reader

end Launchpad.Machine.Programs.Finding
