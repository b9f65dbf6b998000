/-!
Which tokens of a raw argument list belong to the virtual machine. A token is a flag of the virtual
machine when some rule of the table holds of it. The flags for a classpath come in two tokens, so
no rule covers them.
-/

namespace Launchpad.Arguments

/-- Whether a rule looks at the start of a token or at the whole of it. -/
inductive Extent where
  | start
  | whole
  deriving DecidableEq, Repr

def startsWith (text pattern : String) : Bool :=
  pattern.toList.isPrefixOf text.toList

structure FlagRule where
  pattern : String
  extent : Extent
  deriving DecidableEq, Repr

def FlagRule.admits (rule : FlagRule) (token : String) : Bool :=
  match rule.extent with
  | .start => startsWith token rule.pattern
  | .whole => token = rule.pattern

def flagRules : List FlagRule := [
  ⟨"-X", .start⟩,
  ⟨"-G:", .start⟩,
  ⟨"-D", .start⟩,
  ⟨"-verbose", .start⟩,
  ⟨"-ea", .start⟩,
  ⟨"-javaagent", .start⟩,
  ⟨"-esa", .whole⟩,
  ⟨"-d64", .whole⟩,
  ⟨"-server", .whole⟩]

/-- A token is meant for the virtual machine. -/
def isVmFlag (token : String) : Bool :=
  flagRules.any (·.admits token)

def isClasspathFlag (token : String) : Bool :=
  token = "-cp" || token = "-classpath"

def doubleDashToken : String := "--"

def heapStart : String := "-Xm"

def stackStart : String := "-Xss"

end Launchpad.Arguments
