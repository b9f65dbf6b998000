import Launchpad.Machine.Calendar
import Launchpad.Machine.Inputs

/-!
Programs that tell facts: about the machine, its user, the terminal and the time.
-/

namespace Launchpad.Machine.Programs

structure MachineFacts where
  system : Octets
  name : Octets
  release : Octets
  version : Octets
  architecture : Octets
  user : Octets
  group : Octets
  userNumber : Nat
  groupNumber : Nat
  processors : Nat

def thisMachine : MachineFacts where
  system := "Linux"
  name := "localhost"
  release := "6.1.0"
  version := "#1 SMP PREEMPT_DYNAMIC"
  architecture := "x86_64"
  user := "user"
  group := "user"
  userNumber := 1000
  groupNumber := 1000
  processors := 4

def uname : Program := do
  let g ← Tool.options
    [.flag 'a' "all", .flag 's' "kernel-name", .flag 'n' "nodename", .flag 'r' "kernel-release",
      .flag 'v' "kernel-version", .flag 'm' "machine", .flag 'p' "processor",
      .flag 'i' "hardware-platform", .flag 'o' "operating-system"]
  match g.operands with
  | extra :: _ => Tool.failWithHint 1 ("extra operand " ++ Quoting.plain extra)
  | [] =>
    let m := thisMachine
    let facts := [('s', m.system), ('n', m.name), ('r', m.release), ('v', m.version),
      ('m', m.architecture), ('p', "unknown"), ('i', "unknown"), ('o', "GNU/Linux")]
    let asked := facts.filter fun (key, value) =>
      if g.has 'a' then value ≠ "unknown" else g.has key
    let shown := if asked = [] then [m.system] else asked.map (·.2)
    Tool.print (" ".intercalate shown ++ "\n")

def arch : Program := do
  let _ ← Tool.options []
  Tool.print (thisMachine.architecture ++ "\n")

def hostname : Program := Tool.print (thisMachine.name ++ "\n")

def whoami : Program := do
  let g ← Tool.options []
  match g.operands with
  | extra :: _ => Tool.failWithHint 1 ("extra operand " ++ Quoting.plain extra)
  | [] => Tool.print (thisMachine.user ++ "\n")

def logname : Program := do
  let _ ← Tool.options []
  Tool.fail 1 "no login name"

def nproc : Program := do
  let g ← Tool.options [.named '\x03' "all", .named '\x04' "ignore" .value]
  let ignored := ((g.value? '\x04').bind fun text => natural? text.toList).getD 0
  Tool.print (toString (max 1 (thisMachine.processors - ignored)) ++ "\n")

/-- Print the numbers and names of the user. -/
def identity : Program := do
  let g ← Tool.options
    [.flag 'a', .flag 'g' "group", .flag 'G' "groups", .flag 'n' "name", .flag 'r' "real",
      .flag 'u' "user", .flag 'z' "zero"]
  let m := thisMachine
  let one (number : Nat) (name : Octets) : Octets := if g.has 'n' then name else toString number
  match g.operands with
  | name :: _ => if name ≠ m.user then
      Tool.fail 1 (Quoting.plain name ++ ": no such user")
  | [] => pure ()
  if g.has 'u' then Tool.print (one m.userNumber m.user ++ "\n")
  else if g.has 'g' || g.has 'G' then Tool.print (one m.groupNumber m.group ++ "\n")
  else if g.has 'n' || g.has 'r' then
    Tool.failWithHint 1 "cannot print only names or real IDs in default format"
  else
    let both (number : Nat) (name : Octets) : Octets := toString number ++ "(" ++ name ++ ")"
    Tool.print ("uid=" ++ both m.userNumber m.user ++ " gid=" ++ both m.groupNumber m.group ++
      " groups=" ++ both m.groupNumber m.group ++ "\n")

/-- The standard input is no terminal. -/
def tty : Program := do
  let g ← Tool.options [.flag 's' "silent", .flag 's' "quiet"] 2
  if !g.has 's' then Tool.print "not a tty\n"
  Tool.mark 1

/-- The forms of a date that have a name, by how exact they are. -/
def isoFormat? (exactness : Octets) : Option Octets :=
  match exactness with
  | "" => some "%Y-%m-%d"
  | "date" => some "%Y-%m-%d"
  | "hours" => some "%Y-%m-%dT%H%:z"
  | "minutes" => some "%Y-%m-%dT%H:%M%:z"
  | "seconds" => some "%Y-%m-%dT%H:%M:%S%:z"
  | "ns" => some "%Y-%m-%dT%H:%M:%S,%N%:z"
  | _ => none

def date : Program := do
  let g ← Tool.options
    [.valued 'd' "date", .valued 'f' "file", { key := 'I', long := "iso-8601", takes := .perhaps },
      .valued 'r' "reference", .flag 'R' "rfc-email", .flag 'R' "rfc-2822",
      .named '\x03' "rfc-3339" .value, .valued 's' "set", .flag 'u' "utc", .flag 'u' "universal",
      .named '\x04' "debug"]
  let now := (← Tool.files).now
  let moment ← match g.value? 'r', g.value? 'd' with
    | some path, _ =>
      match (← Tool.files).status (Octets.path path) with
      | .ok (_, e) => pure e.modified
      | .error e => Tool.fail 1 (Quoting.beforeColon path ++ ": " ++ e.number.text)
    | none, some text =>
      match readMoment? now text with
      | some moment => pure moment
      | none => Tool.fail 1 ("invalid date " ++ Quoting.plain text)
    | none, none => pure now
  let format ← match g.operands with
    | [] => pure none
    | [operand] =>
      if operand.startsWith "+" then pure (some (operand.drop 1).toString)
      else Tool.fail 1 ("invalid date " ++ Quoting.plain operand)
    | _ :: extra :: _ => Tool.failWithHint 1 ("extra operand " ++ Quoting.plain extra)
  let format ← match format, g.last? ['I', 'R', '\x03'] with
    | some format, _ => pure format
    | none, some 'I' =>
      let text := (g.value? 'I').getD ""
      match isoFormat? text with
      | some format => pure format
      | none =>
        Tool.failWithHint 1 ("invalid argument " ++ Quoting.plain text ++ " for " ++
          Quoting.plain "--iso-8601")
    | none, some 'R' => pure "%a, %d %b %Y %H:%M:%S %z"
    | none, some _ =>
      pure (match g.value? '\x03' with
        | some "date" => "%Y-%m-%d"
        | some "ns" => "%Y-%m-%d %H:%M:%S.%N%:z"
        | _ => "%Y-%m-%d %H:%M:%S%:z")
    | none, none => pure "%a %b %e %H:%M:%S %Z %Y"
  Tool.print ((CivilTime.ofTimestamp moment).format format ++ "\n")

end Launchpad.Machine.Programs
