import Launchpad.Machine.Process

/-!
The options of a shell, and the options of the commands that a shell has inside itself.
-/

namespace Launchpad.Machine.Shell

/-- Read the options of a command: letters behind dashes, up to the first argument that holds none.
Letters of `valued` take a value. A letter that is not known ends the command. `fuel` bounds the
number of arguments. -/
def flagsFuel (plain valued : String) :
    Nat → List Octets → Step (List (Char × Octets) × List Octets)
  | 0, args => return ([], args)
  | fuel + 1, args => do
    match args with
    | [] => return ([], [])
    | arg :: rest =>
      if arg = "--" then return ([], rest)
      else match arg.toList with
        | '-' :: letters@(_ :: _) =>
          let (own, rest) ← readLetters rest letters
          let (more, rest) ← flagsFuel plain valued fuel rest
          return (own ++ more, rest)
        | _ => return ([], args)
where
  /-- Read the letters behind one dash. -/
  readLetters (rest : List Octets) : List Char → Step (List (Char × Octets) × List Octets)
    | [] => return ([], rest)
    | c :: more => do
      if valued.toList.contains c then
        if more ≠ [] then return ([(c, String.ofList more)], rest)
        else match rest with
          | value :: rest => return ([(c, value)], rest)
          | [] => Step.fail ("No arg for -" ++ String.ofList [c] ++ " option")
      else if plain.toList.contains c then
        let (own, rest) ← readLetters rest more
        return ((c, "") :: own, rest)
      else Step.fail ("Illegal option -" ++ String.ofList [c])

def flags (plain valued : String) (args : List Octets) :
    Step (List (Char × Octets) × List Octets) :=
  flagsFuel plain valued (args.length + 1) args

/-- The options of a shell: their names and letters. Two have no letter that can be given. -/
def optionNames : List (String × Char) := [
  ("errexit", 'e'), ("noglob", 'f'), ("ignoreeof", 'I'), ("interactive", 'i'), ("monitor", 'm'),
  ("noexec", 'n'), ("stdin", 's'), ("xtrace", 'x'), ("verbose", 'v'), ("vi", 'V'), ("emacs", 'E'),
  ("noclobber", 'C'), ("allexport", 'a'), ("notify", 'b'), ("nounset", 'u'), ("nolog", '\x01'),
  ("debug", '\x02')]

def setOption (letter : Char) (on : Bool) : Step Unit :=
  Step.alter fun s =>
    let others := s.options.filter (· ≠ letter)
    { s with options := if on then letter :: others else others }

def setNamedOption (name : Octets) (on : Bool) : Step Unit := do
  match optionNames.lookup name with
  | some letter => setOption letter on
  | none => Step.fail ("Illegal option " ++ (if on then "-" else "+") ++ "o " ++ name)

def printOptions (asCommands : Bool) : Step Unit := do
  let s ← Step.shell
  if asCommands then
    for (name, letter) in optionNames do
      Step.print 1 ("set " ++ (if s.isOn letter then "-" else "+") ++ "o " ++ name ++ "\n")
  else
    Step.print 1 "Current option settings\n"
    for (name, letter) in optionNames do
      Step.print 1 (padRight 16 name ++ (if s.isOn letter then "on" else "off") ++ "\n")

/-- Switch the options that the letters of one argument ask for; `rest` are the arguments behind
it. -/
def setLetters (on : Bool) (rest : List Octets) : List Char → Step (List Octets)
  | [] => return rest
  | 'o' :: more => do
    match rest with
    | name :: rest =>
      setNamedOption name on
      setLetters on rest more
    | [] =>
      printOptions (!on)
      setLetters on [] more
  | c :: more => do
    if optionNames.any (·.2 = c) && c ≠ '\x01' && c ≠ '\x02' then
      setOption c on
      setLetters on rest more
    else Step.fail ("Illegal option " ++ (if on then "-" else "+") ++ String.ofList [c])

/-- Switch options as long as arguments hold some. The answer holds the arguments behind them, if
there are any or two dashes stand in front of them. `fuel` bounds the number of arguments. -/
def setOptionsFuel : Nat → List Octets → Step (Option (List Octets))
  | 0, _ => return none
  | fuel + 1, args => do
    match args with
    | [] => return none
    | arg :: rest =>
      if arg = "--" then return some rest
      else if arg = "-" then
        setOption 'x' false
        setOption 'v' false
        return if rest = [] then none else some rest
      else match arg.toList with
        | '-' :: letters@(_ :: _) => setOptionsFuel fuel (← setLetters true rest letters)
        | '+' :: letters@(_ :: _) => setOptionsFuel fuel (← setLetters false rest letters)
        | _ => return some args

def printVariables (lead : Octets) (wanted : Variable → Bool) : Step Unit := do
  let s ← Step.shell
  let named := (s.bindings.filter fun (_, v) => wanted v).mergeSort fun a b => a.1 ≤ b.1
  for (name, v) in named do
    match v.value? with
    | some value => Step.print 1 (lead ++ name ++ "=" ++ singleQuoted value ++ "\n")
    | none => if lead ≠ "" then Step.print 1 (lead ++ name ++ "\n")

/-- The command `set`: options, arguments, or a list of the variables. -/
def setParameters (args : List Octets) : Step Nat := do
  if args = [] then
    printVariables "" (·.value?.isSome)
    return 0
  else
    match ← setOptionsFuel (args.length + 1) args with
    | some rest =>
      Step.alter fun s => { s with args := rest, optionOffset := 0 }
      return 0
    | none => return 0

end Launchpad.Machine.Shell
