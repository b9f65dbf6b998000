import Launchpad.Machine.Shell.Options
import Launchpad.Machine.Permissions
import Launchpad.Script.Arithmetic

/-!
The commands of a shell that work on its variables and arguments.
-/

namespace Launchpad.Machine.Shell

def number (text : Octets) : Step Nat := do
  match natural? text.toList with
  | some n => return n
  | none => Step.fail ("Illegal number: " ++ text)

def checkName (name : Octets) : Step Unit := do
  if Script.isName name.toList then return ()
  else Step.fail (name ++ ": bad variable name")

/-- Make variables exported or read only, perhaps with new values, or list those that are. -/
def declare (command : Octets) (seen : Variable → Bool) (change : Variable → Variable)
    (args : List Octets) : Step Nat := do
  let (options, names) ← flags "p" "" args
  if names = [] || options ≠ [] then
    printVariables (command ++ " ") seen
    return 0
  else
    for arg in names do
      let (name, value?) := splitAssignment arg
      let old := ((← Step.shell).binding? name).getD {}
      checkName name
      match value? with
      | some value => Step.assign name value
      | none => pure ()
      let now := ((← Step.shell).binding? name).getD old
      Step.alter (·.bind name (change now))
    return 0

/-- The command `export`. -/
def exportVariables : List Octets → Step Nat :=
  declare "export" (·.exported) fun v => { v with exported := true }

/-- The command `readonly`. -/
def protectVariables : List Octets → Step Nat :=
  declare "readonly" (·.isReadOnly) fun v => { v with isReadOnly := true }

def hideVariable (name : Octets) : Step Unit :=
  Step.alter fun s => { s with hidden := .binding name (s.binding? name) :: s.hidden }

/-- Show again what was hidden since only `kept` things were. What was hidden under something that
is no name cannot be shown again. -/
def showHidden (kept : Nat) : Step Unit := do
  let s ← Step.shell
  for h in s.hidden.take (s.hidden.length - kept) do
    Step.alter fun s => { s with hidden := s.hidden.drop 1 }
    match h with
    | .options letters => Step.alter fun s => { s with options := letters }
    | .binding name (some old) => Step.alter (·.bind name old)
    | .binding name none =>
      checkName name
      Step.alter (·.forget name)

/-- The command `local`. -/
def hideVariables (args : List Octets) : Step Nat := do
  if (← Step.shell).calls = 0 then Step.fail "not in a function"
  else
    for arg in args do
      if arg = "-" then
        Step.alter fun s => { s with hidden := .options s.options :: s.hidden }
      else
        let (name, value?) := splitAssignment arg
        match value? with
        | some value =>
          hideVariable name
          Step.assign name value
        | none =>
          checkName name
          hideVariable name
    return 0

/-- The command `unset`. -/
def forget (args : List Octets) : Step Nat := do
  let (options, names) ← flags "vf" "" args
  if options.getLast?.any (·.1 = 'f') then
    for name in names do
      Step.alter fun s => { s with functions := s.functions.filter (·.1 ≠ name) }
    return 0
  else
    for name in names do
      checkName name
      match (← Step.shell).binding? name with
      | some { isReadOnly := true, .. } => Step.fail (name ++ ": is read only")
      | _ => Step.alter (·.forget name)
    return 0

/-- The command `shift`. -/
def shift (args : List Octets) : Step Nat := do
  let count ← match args with
    | [] => pure 1
    | text :: _ => number text
  let s ← Step.shell
  if count > s.args.length then Step.fail "can't shift that many"
  else
    Step.alter fun s => { s with args := s.args.drop count, optionOffset := 0 }
    return 0

/-- The number of the argument that is looked at next for options. -/
def optionPlace (s : ShellProcess) : Nat :=
  match (s.value? "OPTIND").bind fun text => natural? text.toList with
  | some 0 => 1
  | some n => n
  | none => 1

/-- What looking for an option finds: the letter that is reported, the value of the option, how many
arguments have been used up, how many letters of the current argument have been, and a message. -/
structure OptionFound where
  letter : Char := '?'
  value? : Option Octets := none
  place : Nat
  offset : Nat := 0
  message? : Option Octets := none
  isOver : Bool := false

/-- Look for the next option among arguments. -/
def findOption (known : List Char) (args : List Octets) (place offset : Nat) : OptionFound :=
  let quiet := known.head? = some ':'
  let current := if offset > 0 && place > 1 then (args[place - 2]?).getD "" else ""
  let left := current.toList.drop offset
  let start? : Option (List Char × Nat) :=
    if offset > 0 && place > 1 && left ≠ [] then some (left, place)
    else match args[place - 1]? with
      | some arg =>
        match arg.toList with
        | ['-'] => none
        | ['-', '-'] => none
        | '-' :: letters => some (letters, place + 1)
        | _ => none
      | none => none
  match start? with
  | none =>
    let skipped := if args[place - 1]? = some "--" then place + 1 else place
    { place := skipped, isOver := true }
  | some ([], place) => { place := place, isOver := true }
  | some (c :: more, place) =>
    let length := ((args[place - 2]?).getD "").length
    let offset := if more = [] then 0 else length - more.length
    match known.dropWhile (· ≠ c) with
    | [] =>
      { place := place, offset := offset
        value? := if quiet then some (String.ofList [c]) else none
        message? := if quiet then none else some ("Illegal option -" ++ String.ofList [c]) }
    | _ :: behind =>
      if c = ':' then
        { place := place, offset := offset
          value? := if quiet then some ":" else none
          message? := if quiet then none else some "Illegal option -:" }
      else if behind.head? = some ':' then
        if more ≠ [] then { letter := c, value? := some (String.ofList more), place := place }
        else match args[place - 1]? with
          | some value => { letter := c, value? := some value, place := place + 1 }
          | none =>
            { letter := if quiet then ':' else '?', place := place
              value? := if quiet then some (String.ofList [c]) else none
              message? := if quiet then none
                else some ("No arg for -" ++ String.ofList [c] ++ " option") }
      else { letter := c, value? := some "", place := place, offset := offset }

/-- The command `getopts`. -/
def nextOption (args : List Octets) : Step Nat := do
  let (_, args) ← flags "" "" args
  match args with
  | known :: name :: given =>
    let s ← Step.shell
    let from_ := if given = [] then s.args else given
    let place := optionPlace s
    let (place, offset) := if place > from_.length + 1 then (1, 0) else (place, s.optionOffset)
    let found := findOption known.toList from_ place offset
    match found.message? with
    | some text => Step.print 2 (text ++ "\n")
    | none => pure ()
    if !found.isOver then
      match found.value? with
      | some value => Step.assign "OPTARG" value
      | none => Step.alter (·.forget "OPTARG")
    Step.assign "OPTIND" (toString found.place)
    checkName name
    Step.assign name (String.ofList [found.letter])
    Step.alter fun s => { s with optionOffset := found.offset }
    return if found.isOver then 1 else 0
  | _ => Step.fail "Usage: getopts optstring var [arg...]"

structure LastField where
  length : Nat := 0
  /-- Where what is left out at the end begins. -/
  cut? : Option Nat := none
  /-- The part that is left out begins with a blank, and one more separator may follow. -/
  startsBlank : Bool := false
  /-- A separator has been met. -/
  isOver : Bool := false

/-- A character at which lines are cut, unless a backslash protects it. -/
def separates (separators : List Char) : Char × Bool → Bool
  | (c, isProtected) => !isProtected && separators.contains c

def separatesBlank (separators : List Char) (c : Char × Bool) : Bool :=
  separates separators c && (c.1 = ' ' || c.1 = '\t' || c.1 = '\n')

def LastField.step (separators : List Char) (l : LastField) (c : Char × Bool) : LastField :=
  let isSeparator := separates separators c
  let isBlank := separatesBlank separators c
  let next := { l with length := l.length + 1 }
  if !l.isOver then
    if isSeparator then { next with cut? := some l.length, startsBlank := isBlank, isOver := true }
    else next
  else if isBlank then { next with cut? := l.cut? <|> some l.length }
  else { next with
    cut? := if isSeparator && l.startsBlank then l.cut? else none
    startsBlank := false }

/-- The last field of a line: everything but blanks at its end, and but for the separator that ends
it if it is the only one. -/
def lastField (separators : List Char) (cs : List (Char × Bool)) : List (Char × Bool) :=
  let l := cs.foldl (LastField.step separators) {}
  cs.take (l.cut?.getD cs.length)

/-- Leave out the blanks behind a field, and one other separator among them if a blank ended the
field. -/
def skipSeparators (separators : List Char) (afterBlank : Bool) (cs : List (Char × Bool)) :
    List (Char × Bool) :=
  let rest := cs.dropWhile (separatesBlank separators)
  match rest with
  | c :: more =>
    if afterBlank && separates separators c then more.dropWhile (separatesBlank separators)
    else rest
  | [] => []

def cutLine (separators : List Char) : Nat → List (Char × Bool) → List (List (Char × Bool))
  | 0, _ => []
  | 1, cs => [lastField separators cs]
  | fields + 1, cs =>
    if cs = [] then []
    else
      let own := cs.takeWhile (!separates separators ·)
      match cs.dropWhile (!separates separators ·) with
      | [] => [own]
      | c :: rest =>
        own :: cutLine separators fields
          (skipSeparators separators (separatesBlank separators c) rest)

/-- Take the meaning of backslashes out of a text: a backslash protects the next character, and one
at the end of a line joins the line to the next. The answer holds the first line, whether its end
was there, and what is left. `fuel` bounds the length. -/
def takeLineFuel (raw : Bool) : Nat → List Char → List (Char × Bool) × Bool × List Char
  | 0, cs => ([], false, cs)
  | fuel + 1, cs =>
    match cs with
    | [] => ([], false, [])
    | '\n' :: rest => ([], true, rest)
    | '\x00' :: rest => takeLineFuel raw fuel rest
    | c :: rest =>
      if c = '\\' && !raw then
        match rest with
        | '\n' :: rest => takeLineFuel raw fuel rest
        | d :: rest =>
          let (line, ended, left) := takeLineFuel raw fuel rest
          ((d, true) :: line, ended, left)
        | [] => ([], false, [])
      else
        let (line, ended, left) := takeLineFuel raw fuel rest
        ((c, false) :: line, ended, left)

/-- How many bytes at the front of bytes hold the next line: up to an end of line that no backslash
stands in front of. -/
def lineExtent (raw : Bool) (bytes : ByteArray) : Nat :=
  let rec go : Nat → Nat → Nat
    | 0, place => place
    | fuel + 1, place =>
      match bytes[place]? with
      | none => place
      | some b =>
        if b = 10 then place + 1
        else if b = 92 && !raw then go fuel (place + 2)
        else go fuel (place + 1)
  min (go (bytes.size + 1) 0) bytes.size

/-- The command `read`: read a line and give its fields to variables, the rest of the line to the
last of them. -/
def readLine (args : List Octets) : Step Nat := do
  let (options, names) ← flags "r" "p" args
  let raw := options.any (·.1 = 'r')
  if names = [] then Step.fail "arg count"
  else
    let r ← get
    match r.shell.descriptors.lookup 0 with
    | none => return 1
    | some channel =>
      let bytes := r.session.available channel
      let extent := lineExtent raw bytes
      let text := (Octets.ofArray (bytes.extract 0 extent)).toList
      Step.alterSession (·.leave channel (bytes.extract extent bytes.size))
      let (line, ended, _) := takeLineFuel raw (text.length + 1) text
      let separators := r.shell.separators
      let trimmed := line.dropWhile (separatesBlank separators)
      let fields := cutLine separators names.length trimmed
      for (name, k) in names.zip (List.range names.length) do
        let value := (fields[k]?).getD []
        checkName name
        Step.assign name (String.ofList (value.map (·.1)))
      return if ended then 0 else 1

/-- The command `umask`. -/
def mask (args : List Octets) : Step Nat := do
  let (options, operands) ← flags "S" "" args
  let current := (← Step.shell).umask
  match operands with
  | [] =>
    Step.print 1 ((if options ≠ [] then Permissions.symbolic current
      else Permissions.digits current) ++ "\n")
    return 0
  | text :: _ =>
    if text.toList.head?.any Char.isDigit then
      match Permissions.octal? text with
      | some n =>
        if n ≤ 0o777 then
          Step.alter fun s => { s with umask := n }
          return 0
        else Step.fail ("Illegal number: " ++ text)
      | none => Step.fail ("Illegal number: " ++ text)
    else
      match Permissions.change? current false text (0o777 ^^^ current) with
      | some mode =>
        Step.alter fun s => { s with umask := 0o777 ^^^ (mode &&& 0o777) }
        return 0
      | none => Step.fail ("Illegal mode: " ++ text)

end Launchpad.Machine.Shell
