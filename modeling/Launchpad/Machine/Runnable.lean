import Launchpad.FileSystem.Lookup
import Launchpad.Machine.Image
import Launchpad.Machine.Octets

/-!
Finding what is to be run. A program is named by its path or looked for in a list of directories.
The file that is found holds an installed program, or a script whose first line names its
interpreter, or any other text.
-/

namespace Launchpad.Machine

/-- How many interpreters may stand behind each other in front of a script. -/
def interpreterLimit : Nat := 5

/-- How many bytes of a file are searched for the name of an interpreter. -/
def interpreterRoom : Nat := 256

/-- The program and the argument in the first line of a script that names its interpreter. A name
that does not fit into the room for it counts as none. -/
def interpreter? (content : ByteArray) : Option (Octets × List Octets) :=
  let head := (Octets.ofArray (content.extract 0 (interpreterRoom - 1))).toList
  match head with
  | '#' :: '!' :: rest =>
    let isGap (c : Char) : Bool := c = ' ' || c = '\t'
    let line := rest.takeWhile (· ≠ '\n')
    let isWhole := line.length < rest.length || head.length = content.size
    let trimmed := ((line.dropWhile isGap).reverse.dropWhile isGap).reverse
    let program := trimmed.takeWhile (!isGap ·)
    let argument := (trimmed.dropWhile (!isGap ·)).dropWhile isGap
    if program = [] || (!isWhole && !(line.dropWhile isGap).any isGap) then none
    else some (String.ofList program, if argument = [] then [] else [String.ofList argument])
  | _ => none

/-- How many bytes one argument of a program may have, its end included. -/
def argumentLimit : Nat := 131072

inductive Runnable where
  /-- An installed program, with its arguments. -/
  | program (name : String) (args : List Octets)
  /-- A text without an interpreter. -/
  | text (content : Octets)

/-- Find out what a path names when it is to be run under a name with arguments. The answer holds
the name and the arguments that the program sees. `fuel` bounds the number of interpreters. -/
def runnableFuel (files : FileSystem) : Nat → Octets → Octets → List Octets →
    Except Errno (Runnable × List Octets)
  | 0, _, _, _ => .error .linkLoop
  | fuel + 1, p, called, args =>
    match files.status (Octets.path p) with
    | .error failure => .error failure.number
    | .ok (_, e) =>
      match e.node with
      | .file content =>
        if !e.executable then .error .accessDenied
        else if args.any fun arg => arg.length ≥ argumentLimit then .error .argumentsTooLong
        else match programName? content with
          | some name => .ok (.program name args, called :: args)
          | none =>
            match interpreter? content with
            | some (program, leading) =>
              runnableFuel files fuel program program (leading ++ p :: args)
            | none => .ok (.text (Octets.ofArray content), p :: args)
      | _ => .error .accessDenied

/-- Find out what a path names when it is to be run under a name with arguments. -/
def runnable (files : FileSystem) (p called : Octets) (args : List Octets) :
    Except Errno (Runnable × List Octets) :=
  runnableFuel files interpreterLimit p called args

/-- The paths under which a program is looked for: itself when it holds a separator, and otherwise
one for each directory of a list. -/
def searchPaths (program searched : Octets) : List Octets :=
  if program.toList.contains '/' then [program]
  else (searched.splitOn ":").map fun directory =>
    if directory = "" then program else directory ++ "/" ++ program

/-- The first path at which a program can be run. A path where nothing is does not end the search,
nor does one that may not be run; but of these the second is what is reported in the end. -/
def findRunnable (files : FileSystem) (called : Octets) (args : List Octets) (denied : Bool)
    (last : Errno) : List Octets → Except Errno (Octets × Runnable × List Octets)
  | [] => .error (if denied then .accessDenied else last)
  | p :: rest =>
    match runnable files p called args with
    | .ok (r, argv) => .ok (p, r, argv)
    | .error number =>
      if number = .accessDenied then findRunnable files called args true number rest
      else if number = .noEntry || number = .notDirectory then
        findRunnable files called args denied number rest
      else .error number

/-- Find a program: by its path, or by its name in the directories of a list. -/
def locateProgram (files : FileSystem) (program searched : Octets) (args : List Octets) :
    Except Errno (Octets × Runnable × List Octets) :=
  if program = "" then .error .noEntry
  else findRunnable files program args false .noEntry (searchPaths program searched)

/-- Where programs are looked for when nothing else is said. -/
def usualSearch : Octets := "/bin:/usr/bin"

end Launchpad.Machine
