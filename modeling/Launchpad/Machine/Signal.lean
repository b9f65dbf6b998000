import Launchpad.Machine.Octets

/-!
The signals of the machine: their numbers and names, and what a shell prints when one of them has
ended a program.
-/

namespace Launchpad.Machine

structure Signal where
  number : Nat
  /-- The name without its first three letters, which are the same for all. -/
  name : String
  /-- What is said of a program that the signal has ended. -/
  meaning : String
  /-- Whether a process that does nothing about the signal is ended by it. -/
  ends : Bool := true
  deriving DecidableEq, Repr, Inhabited

namespace Signal

def all : List Signal := [
  ⟨1, "HUP", "Hangup", true⟩, ⟨2, "INT", "", true⟩, ⟨3, "QUIT", "Quit", true⟩,
  ⟨4, "ILL", "Illegal instruction", true⟩, ⟨5, "TRAP", "Trace/breakpoint trap", true⟩,
  ⟨6, "ABRT", "Aborted", true⟩, ⟨7, "BUS", "Bus error", true⟩,
  ⟨8, "FPE", "Floating point exception", true⟩, ⟨9, "KILL", "Killed", true⟩,
  ⟨10, "USR1", "User defined signal 1", true⟩, ⟨11, "SEGV", "Segmentation fault", true⟩,
  ⟨12, "USR2", "User defined signal 2", true⟩, ⟨13, "PIPE", "", true⟩,
  ⟨14, "ALRM", "Alarm clock", true⟩, ⟨15, "TERM", "Terminated", true⟩,
  ⟨16, "STKFLT", "Stack fault", true⟩, ⟨17, "CHLD", "Child exited", false⟩,
  ⟨18, "CONT", "Continued", false⟩, ⟨19, "STOP", "Stopped (signal)", false⟩,
  ⟨20, "TSTP", "Stopped", false⟩, ⟨21, "TTIN", "Stopped (tty input)", false⟩,
  ⟨22, "TTOU", "Stopped (tty output)", false⟩, ⟨23, "URG", "Urgent I/O condition", false⟩,
  ⟨24, "XCPU", "CPU time limit exceeded", true⟩, ⟨25, "XFSZ", "File size limit exceeded", true⟩,
  ⟨26, "VTALRM", "Virtual timer expired", true⟩, ⟨27, "PROF", "Profiling timer expired", true⟩,
  ⟨28, "WINCH", "Window changed", false⟩, ⟨29, "IO", "I/O possible", true⟩,
  ⟨30, "PWR", "Power failure", true⟩, ⟨31, "SYS", "Bad system call", true⟩]

def greatest : Nat := 64

/-- The signal with a number. Those without a name of their own are counted from the first of
them. -/
def ofNumber (number : Nat) : Signal :=
  match all.find? (·.number = number) with
  | some s => s
  | none =>
    let name := if number < 32 then toString number
      else if number = 34 then "RTMIN"
      else if number = 64 then "RTMAX"
      else if 34 < number && number ≤ 49 then "RTMIN+" ++ toString (number - 34)
      else if 49 < number && number < 64 then "RTMAX-" ++ toString (64 - number)
      else toString number
    ⟨number, name, if 34 ≤ number then "Real-time signal " ++ toString (number - 34)
      else "Unknown signal " ++ toString number, true⟩

/-- The number of a signal that is given by its name, its first letters left out or not. -/
def named? (text : String) : Option Nat :=
  let upper := text.map Char.toUpper
  let bare := if upper.startsWith "SIG" then (upper.drop 3).toString else upper
  if bare = "EXIT" then some 0
  else if bare = "POLL" then some 29
  else if bare = "IOT" then some 6
  else if bare = "CLD" then some 17
  else
    ((List.range (greatest + 1)).drop 1).find? fun n => (ofNumber n).name = bare

/-- The number of a signal that is given by its number or its name. -/
def read? (text : String) : Option Nat :=
  match text.toNat? with
  | some n => if n ≤ greatest then some n else none
  | none => named? text

end Signal

end Launchpad.Machine
