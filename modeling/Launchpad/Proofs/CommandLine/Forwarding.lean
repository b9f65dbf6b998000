import Launchpad.CommandLine.Request
import Mathlib.Data.List.Induction

/-!
What reaches an operation that forwards its arguments. In front of its name the flags of the whole
program may stand, each once and in any order; every other choice of them is refused. Behind the
name everything from the first argument on that does not look like a flag is handed on as it is, and
nothing there is read as a flag any more.
-/

namespace Launchpad.CommandLine

open Arguments (startsWith)

/-! ### Looks of arguments -/

/-- An argument looks like a flag when it begins with a dash and goes on behind it. -/
def looksLikeFlag (arg : String) : Bool :=
  startsWith arg "-" && arg ≠ "-"

/-- A flag of the whole program, as it is written. -/
inductive OwnFlag where
  | verbose
  /-- The path of a configuration, behind a sign of equality or as an argument `apart`. -/
  | config (path : String) (apart : Bool)
  deriving DecidableEq, Repr

namespace OwnFlag

/-- The arguments that a flag takes up. -/
def args : OwnFlag → List String
  | .verbose => ["--verbose"]
  | .config path apart => if apart then ["--config", path] else ["--config=" ++ path]

def path? : OwnFlag → Option String
  | .verbose => none
  | .config path _ => some path

/-- What a flag does to the flags in front of it, once these are settled. -/
def put : OwnFlag → Globals → Reading Globals
  | .verbose, g => if g.verbose then .error .usage else .ok { g with verbose := true }
  | .config path true, g =>
    if looksLikeFlag path then .error .usage else .ok { g with waiting? := some path }
  | .config path false, g => g.accept path

end OwnFlag

/-! ### A choice of flags -/

/-- The operations that forward their arguments. -/
inductive Forwarding where
  | shell (which : Shell)
  | suite (which : TestSuite)
  | unitTests
  | deploy
  deriving DecidableEq, Repr

namespace Forwarding

/-- The names by which an operation is asked for. -/
def names : Forwarding → List String
  | .shell .js => ["run-script", "js"]
  | .shell .legacy => ["run-legacy-script", "nashorn"]
  | .suite .test262 => ["run-conformance-suite-262", "test262"]
  | .suite .testNashorn => ["run-conformance-suite-nashorn", "testnashorn"]
  | .suite .testV8 => ["run-conformance-suite-v8", "testv8"]
  | .unitTests => ["run-unit-tests", "unittest"]
  | .deploy => ["deploy-if-on-primary-branch", "deploy-binary-if-master"]

def operation : Forwarding → List String → Operation
  | .shell which, args => .shell which args
  | .suite which, args => .suite which args
  | .unitTests, args => .unitTests args
  | .deploy, args => .deploy args

end Forwarding

end Launchpad.CommandLine
