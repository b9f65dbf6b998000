import Launchpad.Launch.Shell
import Launchpad.Suite

/-!
What the arguments of the program ask for. Arguments are read from left to right: flags of the whole
program, the name of an operation, and what belongs to the operation. Most operations forward their
arguments: from the first argument that is no flag of the program on, everything is taken as it is.
-/

namespace Launchpad.CommandLine

inductive Operation where
  | shell (shell : Shell) (args : List String)
  | suite (suite : TestSuite) (args : List String)
  | unitTests (args : List String)
  | deploy (args : List String)
  | smokeTests (binary : Path)
  | gate (tags : List String) (rehearsal : Bool)
  | component
  deriving DecidableEq, Repr, Inhabited

structure Request where
  config? : Option Path
  verbose : Bool
  operation : Operation
  deriving DecidableEq, Repr, Inhabited

inductive Refusal where
  /-- Help was asked for, or there was no argument at all. -/
  | help (asked : Bool)
  | version
  /-- The arguments break a rule. -/
  | usage
  deriving DecidableEq, Repr, Inhabited

abbrev Reading (α : Type) := Except Refusal α

structure Globals where
  config? : Option Path := none
  /-- A path behind a flag of its own, not yet accepted. -/
  waiting? : Option String := none
  verbose : Bool := false
  deriving DecidableEq, Repr, Inhabited

namespace Globals

/-- Take a path for the configuration: one that is not empty, and only one. -/
def accept (g : Globals) (path : String) : Reading Globals :=
  if path = "" || g.config?.isSome then .error .usage
  else .ok { g with config? := some (.ofText path) }

/-- Accept the path that is waiting. This is done before the next flag is read, and at the end. -/
def settle (g : Globals) : Reading Globals :=
  match g.waiting? with
  | none => .ok g
  | some path => { g with waiting? := none }.accept path

/-- The flags of the whole program may stand before and behind the name of an operation. Of two
paths the inner one counts. -/
def merge (outer inner : Globals) : Globals :=
  { config? := inner.config? <|> outer.config?, verbose := outer.verbose || inner.verbose }

end Globals

/-- A place among the arguments, by how flags are told there from other arguments. -/
structure Place where
  /-- The long flags that are known beside those of the whole program. -/
  longFlags : List String := []
  /-- The letters that are known as short flags. -/
  letters : List Char := ['h']
  /-- An argument that looks like an unknown flag is an argument like any other. -/
  forwards : Bool := false

inductive Shape where
  /-- Two dashes: no flags behind them. -/
  | stop
  /-- A long flag, perhaps with a value behind a sign of equality. -/
  | long (name : String) (value? : Option String)
  /-- Letters behind one dash. -/
  | short (letters : List Char)
  | plain
  deriving DecidableEq, Repr, Inhabited

def Shape.of (arg : String) : Shape :=
  match arg.toList with
  | ['-', '-'] => .stop
  | '-' :: '-' :: rest =>
    let name := String.ofList (rest.takeWhile (· ≠ '='))
    match rest.dropWhile (· ≠ '=') with
    | _ :: value => .long name (some (String.ofList value))
    | [] => .long name none
  | '-' :: c :: rest => .short (c :: rest)
  | _ => .plain

namespace Place

def knownLong (p : Place) (name : String) : Bool :=
  ["config", "verbose", "help"].contains name || p.longFlags.contains name

/-- An argument is a value or an operand at a place, and no flag. -/
def isValue (p : Place) (arg : String) : Bool :=
  match Shape.of arg with
  | .stop => false
  | .long name _ => p.forwards && !p.knownLong name
  | .short letters => p.forwards && letters.any (!p.letters.contains ·)
  | .plain => true

/-- Take the value of a flag from the arguments behind it. -/
def takeValue (p : Place) : List String → Reading (String × List String)
  | [] => .error .usage
  | value :: rest => if p.isValue value then .ok (value, rest) else .error .usage

end Place

/-- Read a long flag of the whole program, with the arguments behind it. -/
def readGlobal (p : Place) (g : Globals) (name : String) (value? : Option String)
    (rest : List String) : Reading (Globals × List String) := do
  match name, value? with
  | "config", some path =>
    let g ← g.settle
    .ok (← g.accept path, rest)
  | "config", none =>
    let g ← g.settle
    let (path, rest) ← p.takeValue rest
    .ok ({ g with waiting? := some path }, rest)
  | "verbose", none =>
    let g ← g.settle
    if g.verbose then .error .usage else .ok ({ g with verbose := true }, rest)
  | "help", none =>
    let _ ← g.settle
    .error (.help true)
  | _, _ => .error .usage

/-! ## Operations that forward their arguments -/

/-- How arguments are read in front of those that are forwarded. -/
def forwardPlace : Place := { forwards := true }

/-- Read the flags in front of forwarded arguments. `fuel` bounds the number of arguments. -/
def readForwardedFuel : Nat → Globals → List String → Reading (Globals × List String)
  | 0, g, args => .ok (g, args)
  | fuel + 1, g, args =>
    match args with
    | [] => .ok (g, [])
    | arg :: rest =>
      if forwardPlace.isValue arg then .ok (g, arg :: rest)
      else match Shape.of arg with
        | .stop => .ok (g, rest)
        | .long name value? => do
          let (g, rest) ← readGlobal forwardPlace g name value? rest
          readForwardedFuel fuel g rest
        | _ => do
          let _ ← g.settle
          .error (.help true)

def readForwarded (operation : List String → Operation) (args : List String) :
    Reading (Globals × Operation) := do
  let (g, forwarded) ← readForwardedFuel (args.length + 1) {} args
  .ok (← g.settle, operation forwarded)

/-! ## Operations with flags of their own -/

def gatePlace : Place := { longFlags := ["tags", "dry-run"], letters := ['h', 't'] }

structure GateFlags where
  globals : Globals := {}
  tags : List String := []
  rehearsal : Bool := false

def GateFlags.addTags (flags : GateFlags) (value : String) : GateFlags :=
  { flags with tags := flags.tags ++ (Text.splitOn ',' value.toList).map String.ofList }

/-- Read the flags of the gate. `fuel` bounds the number of arguments. -/
def readGateFuel : Nat → GateFlags → List String → Reading GateFlags
  | 0, flags, _ => .ok flags
  | fuel + 1, flags, args =>
    let tagsOf (value? : Option String) (rest : List String) : Reading GateFlags := do
      let g ← flags.globals.settle
      let flags := { flags with globals := g }
      match value? with
      | some value => readGateFuel fuel (flags.addTags value) rest
      | none => do
        let (value, rest) ← gatePlace.takeValue rest
        readGateFuel fuel (flags.addTags value) rest
    match args with
    | [] => .ok flags
    | arg :: rest =>
      match Shape.of arg with
      | .stop => if rest = [] then .ok flags else .error .usage
      | .long "tags" value? => tagsOf value? rest
      | .long "dry-run" none => do
        let g ← flags.globals.settle
        if flags.rehearsal then .error .usage
        else readGateFuel fuel { flags with globals := g, rehearsal := true } rest
      | .long name value? => do
        let (g, rest) ← readGlobal gatePlace flags.globals name value? rest
        readGateFuel fuel { flags with globals := g } rest
      | .short ('h' :: _) => do
        let _ ← flags.globals.settle
        .error (.help true)
      | .short ['t'] => tagsOf none rest
      | .short ('t' :: '=' :: value) => tagsOf (some (String.ofList value)) rest
      | .short ('t' :: value) => tagsOf (some (String.ofList value)) rest
      | _ => .error .usage

def readGate (args : List String) : Reading (Globals × Operation) := do
  let flags ← readGateFuel (args.length + 1) {} args
  .ok (← flags.globals.settle, .gate flags.tags flags.rehearsal)

/-- How the arguments of an operation without flags of its own are read. -/
def plainPlace : Place := {}

/-- Read flags of the whole program between operands, of which at most `most` are allowed and none
may be empty. `fuel` bounds the number of arguments. -/
def readOperandsFuel (most : Nat) : Nat → Globals → List String → List String →
    Reading (Globals × List String)
  | 0, g, operands, _ => .ok (g, operands)
  | fuel + 1, g, operands, args =>
    let add (more : List String) : Reading (List String) :=
      if more.contains "" || operands.length + more.length > most then .error .usage
      else .ok (operands ++ more)
    match args with
    | [] => .ok (g, operands)
    | arg :: rest =>
      match Shape.of arg with
      | .stop => do .ok (← g.settle, ← add rest)
      | .long name value? => do
        let (g, rest) ← readGlobal plainPlace g name value? rest
        readOperandsFuel most fuel g operands rest
      | .short ('h' :: _) => do
        let _ ← g.settle
        .error (.help true)
      | .short _ => .error .usage
      | .plain => do
        readOperandsFuel most fuel (← g.settle) (← add [arg]) rest

def readSmokeTests (args : List String) : Reading (Globals × Operation) := do
  let (g, operands) ← readOperandsFuel 1 (args.length + 1) {} [] args
  let g ← g.settle
  match operands with
  | [binary] => .ok (g, .smokeTests (.ofText binary))
  | _ => .error .usage

def readComponent (args : List String) : Reading (Globals × Operation) := do
  let (g, _) ← readOperandsFuel 0 (args.length + 1) {} [] args
  .ok (← g.settle, .component)

/-! ## The whole program -/

/-- The names of the operations, each with the way its arguments are read. -/
def operations : List (String × (List String → Reading (Globals × Operation))) := [
  ("run-script", readForwarded (.shell .js)),
  ("js", readForwarded (.shell .js)),
  ("run-legacy-script", readForwarded (.shell .legacy)),
  ("nashorn", readForwarded (.shell .legacy)),
  ("run-conformance-suite-262", readForwarded (.suite .test262)),
  ("test262", readForwarded (.suite .test262)),
  ("run-conformance-suite-nashorn", readForwarded (.suite .testNashorn)),
  ("testnashorn", readForwarded (.suite .testNashorn)),
  ("run-conformance-suite-v8", readForwarded (.suite .testV8)),
  ("testv8", readForwarded (.suite .testV8)),
  ("run-unit-tests", readForwarded .unitTests),
  ("unittest", readForwarded .unitTests),
  ("deploy-if-on-primary-branch", readForwarded .deploy),
  ("deploy-binary-if-master", readForwarded .deploy),
  ("run-smoketest", readSmokeTests),
  ("gate", readGate),
  ("component", readComponent)]

/-- What follows the word that asks for help: nothing, or the name of one operation. -/
def readHelp : List String → Refusal
  | [] => .help true
  | [name] => if name = "help" || (operations.lookup name).isSome then .help true else .usage
  | _ => .usage

/-- How arguments are read in front of the name of an operation. -/
def topPlace : Place := { longFlags := ["version"], letters := ['h', 'V'] }

/-- Read the flags in front of an operation, the operation, and what belongs to it. `fuel` bounds
the number of arguments. -/
def readFuel : Nat → Globals → List String → Reading Request
  | 0, _, _ => .error .usage
  | fuel + 1, g, args =>
    let unfinished : Reading Request := do
      let g ← g.settle
      .error (if g = {} then .help false else .usage)
    match args with
    | [] => unfinished
    | arg :: rest =>
      match Shape.of arg with
      | .stop => if rest = [] then unfinished else .error .usage
      | .long "version" none => do
        let _ ← g.settle
        .error .version
      | .long name value? => do
        let (g, rest) ← readGlobal topPlace g name value? rest
        readFuel fuel g rest
      | .short ('h' :: _) => do
        let _ ← g.settle
        .error (.help true)
      | .short ('V' :: _) => do
        let _ ← g.settle
        .error .version
      | .short _ => .error .usage
      | .plain =>
        if arg = "help" then .error (readHelp rest)
        else match operations.lookup arg with
          | none => .error .usage
          | some readRest => do
            let (inner, operation) ← readRest rest
            let all := (← g.settle).merge inner
            .ok ⟨all.config?, all.verbose, operation⟩

/-- The lines that show how the program is called. -/
def helpText : String :=
  "Usage: jsgate [--config PATH] [--verbose] COMMAND [ARGS]...\n\nCommands:\n" ++
    "\n".intercalate (operations.map fun (name, _) => "  " ++ name)

/-- The line for arguments that break a rule. -/
def usageText : String :=
  "error: unexpected arguments; for more information, try '--help'"

def read (args : List String) : Reading Request :=
  readFuel (args.length + 1) {} args

end Launchpad.CommandLine
