import Launchpad.IoError
import Launchpad.Command
import Launchpad.Arguments.Partition

/-!
The causes for which an operation fails, and their texts. Every text is written here and nowhere
else; the operations only name the cause.
-/

namespace Launchpad

inductive Invalid where
  | javaBlank
  | branchBlank
  | commandEmpty
  deriving DecidableEq, Repr, Inhabited

/-- The text for what a configuration lacks. -/
def Invalid.message : Invalid → String
  | .javaBlank => "suite.java must name a Java executable"
  | .branchBlank => "suite.primary_branch must not be empty"
  | .commandEmpty => "deploy.command must contain at least a program"

inductive ConfigFailure where
  | unreadable (path : Path) (cause : IoError)
  | unparsable (path : Path)
  | invalid (why : Invalid)
  deriving DecidableEq, Repr, Inhabited

/-- What was being done when reading or writing failed. -/
inductive IoContext where
  | readingTime
  | deletingDirectory
  | creatingDirectory
  | creatingOutput
  | walkingSmokeTests
  deriving DecidableEq, Repr, Inhabited

def IoContext.message : IoContext → String
  | .readingTime => "Failed to read modification time of"
  | .deletingDirectory => "Failed to delete test directory"
  | .creatingDirectory => "Failed to create test directory"
  | .creatingOutput => "Failed to create output file"
  | .walkingSmokeTests => "Failed to walk smoketest directory"

inductive Failure where
  /-- A classpath flag with no classpath behind it. -/
  | argument (dangling : Arguments.DanglingFlag)
  /-- A directory holds no smoke tests. -/
  | noSmokeTests (directory : Path)
  /-- A child ended with a status other than zero, and that is fatal. -/
  | child (command : Command) (status : Int)
  | unknownArtifact (name : String)
  | missingArtifact (name : String) (path : Path)
  | unlaunchable (program : String) (cause : IoError)
  | unextractable (archive : Path) (cause : IoError)
  | io (context : IoContext) (path : Path) (cause : IoError)
  | config (failure : ConfigFailure)
  deriving DecidableEq, Repr, Inhabited

def singleQuoted (text : String) : String :=
  "'" ++ text ++ "'"

/-- The text of a failed configuration without its cause. -/
def ConfigFailure.summary : ConfigFailure → String
  | .unreadable path _ => "Failed to read config file " ++ singleQuoted path.text
  | .unparsable path => "Failed to parse config file " ++ singleQuoted path.text
  | .invalid why => "Config validation failed: " ++ why.message

def ConfigFailure.cause? : ConfigFailure → Option IoError
  | .unreadable _ cause => some cause
  | _ => none

namespace Failure

/-- The text of a failure without its cause. -/
def summary : Failure → String
  | .argument dangling => dangling.flag ++ " must be followed by a classpath"
  | .noSmokeTests directory => "Did not find any smoketests in " ++ singleQuoted directory.text
  | .child command status =>
    singleQuoted command.display ++ " exited with status " ++ toString status
  | .unknownArtifact name => "Unknown artifact " ++ singleQuoted name
  | .missingArtifact name path =>
    "Artifact " ++ singleQuoted name ++ " not found at " ++ singleQuoted path.text
  | .unlaunchable program _ => "Failed to launch " ++ singleQuoted program
  | .unextractable archive _ => "Failed to extract " ++ singleQuoted archive.text
  | .io context path _ => context.message ++ " " ++ singleQuoted path.text
  | .config failure => failure.summary

def cause? : Failure → Option IoError
  | .unlaunchable _ cause => some cause
  | .unextractable _ cause => some cause
  | .io _ _ cause => some cause
  | .config failure => failure.cause?
  | _ => none

/-- The text of a failure: its summary and the text of its cause. -/
def message (f : Failure) : String :=
  match f.cause? with
  | some cause => f.summary ++ ": " ++ cause.message
  | none => f.summary

/-- The chain of texts from a failure down to its cause, as it is shown at the end of a run. -/
def chain (f : Failure) : List String :=
  f.message :: (f.cause?.map IoError.message).toList

end Failure

end Launchpad
