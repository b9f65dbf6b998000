import Launchpad.Duration
import Launchpad.Path
import Launchpad.Text.Quoted
import Launchpad.Text.Separated

/-!
Log entries: a level, a message and named fields. An entry is kept as it was made; which entries are
shown, and how, is decided where they are printed.
-/

namespace Launchpad

inductive Level where
  | error
  | warn
  | info
  | debug
  | trace
  deriving DecidableEq, Repr, Inhabited

namespace Level

def word : Level → String
  | .error => "ERROR"
  | .warn => "WARN"
  | .info => "INFO"
  | .debug => "DEBUG"
  | .trace => "TRACE"

def rank : Level → Nat
  | .error => 1
  | .warn => 2
  | .info => 3
  | .debug => 4
  | .trace => 5

end Level

inductive FieldValue where
  /-- A text, shown as it is. -/
  | plain (text : String)
  /-- A name, shown between quotes on a line of the log. -/
  | name (text : String)
  | number (n : Int)
  /-- A directory, or none. -/
  | directory? (path? : Option Path)
  | duration (d : Duration)
  deriving DecidableEq, Repr, Inhabited

def FieldValue.render : FieldValue → String
  | .plain text => text
  | .name text => Text.quote text
  | .number n => toString n
  | .directory? none => "None"
  | .directory? (some path) => "Some(" ++ Text.quote path.text ++ ")"
  | .duration d => d.render

/-- The value of a field without any quotes. -/
def FieldValue.bare : FieldValue → String
  | .name text => text
  | value => value.render

structure LogEntry where
  level : Level
  message : String
  fields : List (String × FieldValue) := []
  deriving DecidableEq, Repr, Inhabited

/-- How a character of a message is shown: the controls that a terminal would act on are written
out. -/
def shownChar (c : Char) : List Char :=
  let n := c.toNat
  if n = 0x07 || n = 0x08 || n = 0x0C || n = 0x1B || n = 0x7F then
    ['\\', 'x'] ++ (if n < 0x10 then ['0'] else []) ++ Text.hexDigits n
  else if 0x80 ≤ n && n ≤ 0x9F then ['\\', 'u', '\x7b'] ++ Text.hexDigits n ++ ['\x7d']
  else [c]

/-- An entry as a line: its level, its message with its controls written out, and its fields. -/
def LogEntry.line (e : LogEntry) : String :=
  let fields := e.fields.map fun (key, value) => " " ++ key ++ "=" ++ value.render
  e.level.word ++ " " ++ String.ofList (e.message.toList.flatMap shownChar) ++ String.join fields

/-- The least important level that is shown, or nothing at all. -/
abbrev LogFilter := Option Level

/-- An entry is shown when its level is at least as important as the filter's. -/
def LogFilter.shows (filter : LogFilter) (e : LogEntry) : Bool :=
  match filter with
  | none => false
  | some least => e.level.rank ≤ least.rank

/-- The levels by their names, `off` for nothing at all. -/
def levelNames : List (String × LogFilter) :=
  [("off", none), ("error", some .error), ("warn", some .warn), ("info", some .info),
    ("debug", some .debug), ("trace", some .trace)]

/-- The filter for a level by its name, in any case of its letters. -/
def LogFilter.named? (name : String) : Option LogFilter :=
  levelNames.lookup (name.map Char.toLower)

/-- The name under which the program is known to filters. -/
def programTarget : String := "jsgate"

/-- What one directive of a filter says about this program: a level for everything, a level for a
target, or a target of which everything is shown. The number tells how narrow the directive is. -/
def readDirective (directive : String) : Option (Nat × LogFilter) :=
  let cs := directive.toList
  let name := String.ofList (cs.takeWhile (· ≠ '='))
  match cs.dropWhile (· ≠ '=') with
  | _ :: level =>
    if name = programTarget then (LogFilter.named? (String.ofList level)).map (2, ·) else none
  | [] =>
    match LogFilter.named? name with
    | some filter => some (1, filter)
    | none => if name = programTarget then some (2, some .trace) else none

/-- Read a filter: directives with commas between them, of which the narrowest counts. What no
directive speaks of is not shown. -/
def LogFilter.read (text : String) : LogFilter :=
  let found := ((Text.splitOn ',' text.toList).map String.ofList).filterMap readDirective
  let best := found.foldl (fun best d => if best.1 ≤ d.1 then d else best) (0, none)
  best.2

/-- The filter that applies: the one that is asked for, else all that matters, and with `verbose`
the details too. -/
def LogFilter.choose (asked? : Option String) (verbose : Bool) : LogFilter :=
  match asked? with
  | some text => LogFilter.read text
  | none => some (if verbose then .debug else .info)

end Launchpad
