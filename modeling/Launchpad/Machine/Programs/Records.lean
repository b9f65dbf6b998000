import Launchpad.Machine.Programs.Records.Running

/-!
The command for programs that are run for the records of the input: its options, and what variables
hold at the start.
-/

namespace Launchpad.Machine.Programs

open Records

structure RecordOptions where
  scripts : List Octets := []
  separator? : Option Octets := none
  assignments : List Octets := []
  operands : List Octets := []

namespace RecordOptions

def read : List Octets → Tool RecordOptions
  | [] => return {}
  | "--" :: rest => return { operands := rest }
  | arg :: rest => do
    let name := lastPart (← Tool.invocation).name
    let stop {α : Type} (text : Octets) : Tool α := do
      Tool.printError (name ++ ": " ++ text)
      Tool.exit 2
    match arg.toList with
    | '-' :: c :: own =>
      if c = 'W' || arg = "--version" then
        let wish := if c = 'W' && own = [] then rest.headD "" else String.ofList own
        if wish.startsWith "v" || arg = "--version" then
          Tool.print "mawk 1.3.4 20200120\n"
          Tool.exit 0
        else read rest
      else if ['f', 'F', 'v'].contains c then
        let take (value : Octets) (more : RecordOptions) : RecordOptions :=
          if c = 'f' then { more with scripts := value :: more.scripts }
          else if c = 'F' then { more with separator? := more.separator?.or (some value) }
          else { more with assignments := value :: more.assignments }
        match own, rest with
        | [], value :: rest => return take value (← read rest)
        | [], [] => stop ("option " ++ arg ++ " lacks argument")
        | own, rest => return take (String.ofList own) (← read rest)
      else stop ("not an option: " ++ arg)
    | _ => return { operands := arg :: rest }

end RecordOptions

def initialNames : List (String × Value) :=
  [("FS", .text " "), ("OFS", .text " "), ("ORS", .text "\n"), ("RS", .text "\n"),
    ("SUBSEP", .text "\x1c"), ("CONVFMT", .text "%.6g"), ("OFMT", .text "%.6g"),
    ("NR", .number 0), ("FNR", .number 0), ("NF", .number 0), ("RSTART", .number 0),
    ("RLENGTH", .number (-1)), ("FILENAME", .text "")]

/-- Set the variables that the command line and the environment determine. -/
def prepare (name : Octets) (options : RecordOptions) (operands : List Octets)
    (environment : Environment) : Runner Unit := do
  for (n, v) in initialNames do Runner.setGlobal n v
  Runner.setGlobal "ARGC" (.ofNat (operands.length + 1))
  let arguments := (name :: operands).zip (List.range (operands.length + 1))
  for (operand, n) in arguments do
    Runner.setElement "ARGV" (.number n) (.input operand)
  for (n, value) in environment.reverse do
    Runner.setElement "ENVIRON" (.text n) (.input value)
  match options.separator? with
  | some text => Runner.setGlobal "FS" (.text (unescapeText text))
  | none => pure ()
  for assignment in options.assignments do
    match Runner.assignmentIn? assignment with
    | some (n, value) => Runner.assignText n value
    | none => Runner.fail ("improper assignment: -v " ++ assignment)

/-- Run a program for the records of files or of the standard input. -/
def awk : Program := do
  let i ← Tool.invocation
  let name := lastPart i.name
  let options ← RecordOptions.read i.args
  let say (text : Octets) : Tool Unit := Tool.printError (name ++ ": " ++ text)
  let (source, operands) ← match options.scripts, options.operands with
    | [], [] => do
      Tool.printError ("Usage: " ++ "mawk [Options] [Program] [file ...]")
      Tool.exit 2
    | [], source :: operands => pure (source, operands)
    | paths, operands => do
      let texts ← paths.mapM fun path => do
        match ← Tool.load path with
        | .ok text => pure text
        | .error cause => do
          say ("cannot open " ++ path ++ " (" ++ cause.number.text ++ ")")
          Tool.exit 2
      pure ("\n".intercalate texts, operands)
  match Script.read source with
  | .error errors =>
    for e in errors do say e.text
    Tool.exit 2
  | .ok script =>
    Tool.hold
    let whole : Runner Unit := do
      prepare name options operands i.environment
      Runner.runScript
    let closing : Runner Unit := do
      let result ← Runner.outcome whole
      Runner.closeAll
      match result with
      | .error .exhausted => Runner.tool (throw .exhausted)
      | _ => return ()
    let (_, s) ← (ExceptT.run closing).run { script := script }
    Tool.mark s.status

end Launchpad.Machine.Programs
