import Launchpad.Arguments.Flags
import Launchpad.Text.Separated

/-!
Sorting a raw argument list into flags of the virtual machine, a classpath and the arguments of the
program. No token is lost and none is used twice. The order of the tests matters: a flag of the
virtual machine is one even where a double dash could stand, and a classpath flag takes whatever
follows it.
-/

namespace Launchpad.Arguments

/-- A classpath flag with no token behind it. -/
structure DanglingFlag where
  flag : String
  deriving DecidableEq, Repr

structure Sorted where
  vmFlags : List String
  /-- What the last of all classpath flags took. -/
  classpath? : Option String
  remainder : List String
  deriving DecidableEq, Repr

/-- Sort the tokens of an argument list. Where a double dash counts, it ends the sorting, and it
and everything behind it is left to the program. -/
def sort (doubleDash : Bool) : List String → Except DanglingFlag Sorted
  | [] => .ok ⟨[], none, []⟩
  | token :: rest =>
    if isVmFlag token then
      (sort doubleDash rest).map fun s => { s with vmFlags := token :: s.vmFlags }
    else if doubleDash && token = doubleDashToken then .ok ⟨[], none, token :: rest⟩
    else if isClasspathFlag token then
      match rest with
      | [] => .error ⟨token⟩
      | value :: rest =>
        (sort doubleDash rest).map fun s => { s with classpath? := some (s.classpath?.getD value) }
    else (sort doubleDash rest).map fun s => { s with remainder := token :: s.remainder }

def classpathSeparator : Char := ':'

def joinClasspath (entries : List String) : String :=
  String.ofList (Text.joinWith classpathSeparator (entries.map String.toList))

structure Partition where
  /-- The flags of the virtual machine, behind the classpath when there is one. -/
  vmArgs : List String
  /-- All entries; an explicit one stands last. -/
  classpath : List String
  /-- The arguments of the program, untouched. -/
  remainder : List String
  deriving DecidableEq, Repr

/-- The classpath as one text; without entries there is none. -/
def Partition.joined? (p : Partition) : Option String :=
  if p.classpath = [] then none else some (joinClasspath p.classpath)

/-- The flag for a classpath, when the classpath has entries. -/
def classpathArgs (classpath : List String) : List String :=
  if classpath = [] then [] else ["-cp", joinClasspath classpath]

/-- Sort an argument list and complete its classpath: an explicit entry goes behind the default
ones, however many classpath flags there were. -/
def partition (tokens defaultClasspath : List String) (doubleDash : Bool) :
    Except DanglingFlag Partition :=
  (sort doubleDash tokens).map fun s =>
    let classpath := defaultClasspath ++ s.classpath?.toList
    ⟨classpathArgs classpath ++ s.vmFlags, classpath, s.remainder⟩

end Launchpad.Arguments
