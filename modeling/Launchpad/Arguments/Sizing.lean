import Launchpad.Arguments.Flags

/-!
Default sizes of heap and stack. They are put behind a list of flags as far as the list does not
settle them: any flag for the heap keeps both heap sizes out, any flag for the stack the stack size.
How deep a stack has to be depends on the architecture of the host.
-/

namespace Launchpad

/-- Architectures whose frames need deeper stacks, and all others. -/
inductive Arch where
  | largeStack
  | standard
  deriving DecidableEq, Repr, Inhabited

namespace Arch

def ofName (name : String) : Arch :=
  if name = "aarch64" || name = "sparc64" || name = "sparcv9" then .largeStack else .standard

/-- How deep a stack is made for a user at work. -/
def stackSize : Arch → String
  | .largeStack => "24m"
  | .standard => "16m"

end Arch

namespace Arguments

/-- Sizes of heap and stack; a size that is not set adds no flag. -/
structure Sizing where
  minHeap? : Option String
  maxHeap? : Option String
  stack? : Option String
  deriving DecidableEq, Repr

namespace Sizing

def unset : Sizing := ⟨none, none, none⟩

def interactive (arch : Arch) : Sizing :=
  ⟨some "2g", some "2g", some arch.stackSize⟩

def heapFlags (s : Sizing) : List String :=
  (s.minHeap?.map ("-Xms" ++ ·)).toList ++ (s.maxHeap?.map ("-Xmx" ++ ·)).toList

def stackFlags (s : Sizing) : List String :=
  (s.stack?.map (stackStart ++ ·)).toList

end Sizing

def setsHeap (flags : List String) : Bool :=
  flags.any (startsWith · heapStart)

def setsStack (flags : List String) : Bool :=
  flags.any (startsWith · stackStart)

/-- Put default sizes behind flags that do not settle them. -/
def appendSizing (flags : List String) (sizing : Sizing) : List String :=
  let sized := if setsHeap flags then flags else flags ++ sizing.heapFlags
  if setsStack sized then sized else sized ++ sizing.stackFlags

end Arguments

end Launchpad
