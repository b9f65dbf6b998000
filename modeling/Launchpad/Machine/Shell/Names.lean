import Launchpad.Machine.Shell.Options
import Launchpad.Machine.Runnable
import Launchpad.Script.Source

/-!
What the names of commands stand for: words in place of others, functions, commands of the shell,
and programs.
-/

namespace Launchpad.Machine.Shell

open Script (Statement bareText? isName)

/-- Commands of the shell whose mistakes end it, and whose assignments stay. -/
def specialCommands : List String :=
  [".", ":", "break", "continue", "eval", "exec", "exit", "export", "local", "readonly", "return",
    "set", "shift", "times", "trap", "unset"]

def plainCommands : List String :=
  ["[", "alias", "bg", "cd", "chdir", "command", "echo", "false", "fg", "getopts", "hash", "jobs",
    "kill", "printf", "pwd", "read", "test", "true", "type", "ulimit", "umask", "unalias", "wait"]

def isOwn (name : Octets) : Bool :=
  specialCommands.contains name || plainCommands.contains name

def takesAssignments (name : Octets) : Bool :=
  ["export", "readonly", "local"].contains name

/-- The number of shelves that words in place of others are kept on. -/
def aliasShelves : Nat := 39

def aliasShelf (name : Octets) : Nat :=
  let codes := name.toList.map Char.toNat
  (codes.headD 0 * 16 + codes.foldl (· + ·) 0) % aliasShelves

/-- The command `alias`. -/
def setAliases (args : List Octets) : Step Nat := do
  if args = [] then
    let all := (← Step.shell).aliases.mergeSort fun a b => aliasShelf a.1 ≤ aliasShelf b.1
    for (name, value) in all do
      Step.print 1 (name ++ "=" ++ singleQuoted value ++ "\n")
    return 0
  else setEach 0 args
where
  /-- Set or show one word after the other. -/
  setEach (status : Nat) : List Octets → Step Nat
    | [] => return status
    | arg :: rest => do
      match splitAssignment arg with
      | (name, some value) =>
        if name = "" then
          Step.print 2 ("alias: " ++ arg ++ " not found\n")
          setEach 1 rest
        else
          Step.alter fun s =>
            { s with aliases := (name, value) :: s.aliases.filter (·.1 ≠ name) }
          setEach status rest
      | (name, none) =>
        match (← Step.shell).aliases.lookup name with
        | some value =>
          Step.print 1 (name ++ "=" ++ singleQuoted value ++ "\n")
          setEach status rest
        | none =>
          Step.print 2 ("alias: " ++ name ++ " not found\n")
          setEach 1 rest

/-- The command `unalias`. -/
def dropAliases (args : List Octets) : Step Nat := do
  let (options, names) ← flags "a" "" args
  if options ≠ [] then
    Step.alter fun s => { s with aliases := [] }
    return 0
  else dropEach 0 names
where
  /-- Drop one word after the other. -/
  dropEach (status : Nat) : List Octets → Step Nat
    | [] => return status
    | name :: rest => do
      if (← Step.shell).aliases.any (·.1 = name) then
        Step.alter fun s => { s with aliases := s.aliases.filter (·.1 ≠ name) }
        dropEach status rest
      else
        Step.print 2 ("unalias: " ++ name ++ " not found\n")
        dropEach 1 rest

def searchedPath : Step Octets := do
  return ((← Step.shell).value? "PATH").getD usualSearch

/-- The file of a program: the first regular file of its name in the directories that are
searched. -/
def programFile? (name : Octets) : Step (Option Octets) := do
  let files ← Step.files
  if name.toList.contains '/' then
    return if files.pathExists (Octets.path name) then some name else none
  else
    let paths := searchPaths name (← searchedPath)
    return paths.find? fun p =>
      match files.status (Octets.path p) with
      | .ok (_, e) => e.isFile && e.executable
      | .error _ => false

/-- Say what a name stands for, at length or in short. The answer is a status. -/
def describe (atLength : Bool) (name : Octets) : Step Nat := do
  let s ← Step.shell
  let say (long short : Octets) : Step Nat := do
    Step.print 1 ((if atLength then long else short) ++ "\n")
    return 0
  if Script.keywords.contains name then say (name ++ " is a shell keyword") name
  else match s.aliases.lookup name with
    | some value =>
      say (name ++ " is an alias for " ++ value) ("alias " ++ name ++ "=" ++ singleQuoted value)
    | none =>
      if specialCommands.contains name then say (name ++ " is a special shell builtin") name
      else if (s.functions.lookup name).isSome then say (name ++ " is a shell function") name
      else if isOwn name then say (name ++ " is a shell builtin") name
      else match ← programFile? name with
        | some path =>
          let isTracked := (s.tracked.lookup name).isSome
          say (name ++ " is" ++ (if isTracked then " a tracked alias for " else " ") ++ path) path
        | none =>
          if atLength then Step.print 1 (name ++ ": not found\n")
          return 127

/-- Say what names stand for; the answer is the status of the last one that stands for nothing. -/
def describeAll (atLength : Bool) (names : List Octets) : Step Nat :=
  names.foldlM (fun status name => do
    let own ← describe atLength name
    return if own = 0 then status else own) 0

def track (name path : Octets) : Step Unit :=
  if name.toList.contains '/' then return ()
  else Step.alter fun s =>
    { s with tracked := s.tracked.filter (·.1 ≠ name) ++ [(name, path)] }

/-- Remember the program that the first word of a simple statement names, when it can be seen
without expanding anything. -/
def trackFirst : Statement → Step Unit
  | .simple _ _ (word :: _) _ => do
    match bareText? word with
    | some name =>
      let isFunction := ((← Step.shell).functions.lookup name).isSome
      if !isName name.toList || isOwn name || isFunction then return ()
      match ← programFile? name with
      | some path => track name path
      | none => return ()
    | none => return ()
  | _ => return ()

def trackShelves : Nat := 31

def trackShelf (name : Octets) : Nat :=
  let codes := name.toList.map Char.toNat
  (codes.headD 0 * 16 + codes.foldl (· + ·) 0) % trackShelves

/-- The command `hash`: remember where programs are, forget it all, or list it. -/
def trackPrograms (args : List Octets) : Step Nat := do
  let (options, names) ← flags "rv" "" args
  if options.any (·.1 = 'r') then
    Step.alter fun s => { s with tracked := [] }
    return 0
  else if names = [] then
    let all := (← Step.shell).tracked.mergeSort fun a b => trackShelf a.1 ≤ trackShelf b.1
    for (_, path) in all do Step.print 1 (path ++ "\n")
    return 0
  else
    names.foldlM (fun status name => do
      if isOwn name || ((← Step.shell).functions.lookup name).isSome then return status
      else match ← programFile? name with
        | some path =>
          track name path
          return status
        | none =>
          Step.complain (name ++ ": not found")
          return 1) 0

end Launchpad.Machine.Shell
