import Launchpad.Machine.Tool

/-!
The options of programs. An option has a letter, a long name or both, and may take a value. Letters
can stand behind each other after one dash; long names can be cut short as long as one name alone
fits.
-/

namespace Launchpad.Machine

inductive Takes where
  | nothing
  | value
  /-- A value that stands right behind the option, or none. -/
  | perhaps
  deriving DecidableEq, Repr, Inhabited

structure Choice where
  /-- The letter of the option, or another character by which the program knows it. -/
  key : Char
  long : String := ""
  takes : Takes := .nothing
  /-- Whether the key can be given as a letter. -/
  lettered : Bool := true
  deriving Repr, Inhabited

structure Given where
  options : List (Char × Octets) := []
  operands : List Octets := []
  deriving Inhabited

namespace Given

def has (g : Given) (key : Char) : Bool := g.options.any (·.1 = key)

def value? (g : Given) (key : Char) : Option Octets :=
  (g.options.reverse.find? (·.1 = key)).map (·.2)

def values (g : Given) (key : Char) : List Octets :=
  (g.options.filter (·.1 = key)).map (·.2)

def last? (g : Given) (keys : List Char) : Option Char :=
  (g.options.reverse.find? fun (key, _) => keys.contains key).map (·.1)

def cons (key : Char) (value : Octets) (g : Given) : Given :=
  { g with options := (key, value) :: g.options }

def consOperand (operand : Octets) (g : Given) : Given :=
  { g with operands := operand :: g.operands }

end Given

namespace Choice

def flag (key : Char) (long : String := "") : Choice := { key := key, long := long }

def valued (key : Char) (long : String := "") : Choice :=
  { key := key, long := long, takes := .value }

def named (key : Char) (long : String) (takes : Takes := .nothing) : Choice :=
  { key := key, long := long, takes := takes, lettered := false }

/-- Choices for letters without values. -/
def flags (letters : String) : List Choice :=
  letters.toList.map fun c => flag c

end Choice

/-- Read the letters behind a dash. The answer holds the options, the last of them perhaps without
its value. -/
def readLetters (choices : List Choice) :
    List Char → Except Octets (List (Char × Octets) × Option Char)
  | [] => .ok ([], none)
  | c :: rest =>
    match choices.find? fun choice => choice.lettered && choice.key = c with
    | none => .error ("invalid option -- '" ++ String.ofList [c] ++ "'")
    | some choice =>
      match choice.takes with
      | .nothing => (readLetters choices rest).map fun (options, open?) =>
          ((c, "") :: options, open?)
      | .perhaps => .ok ([(c, String.ofList rest)], none)
      | .value => if rest = [] then .ok ([], some c) else .ok ([(c, String.ofList rest)], none)

/-- The choice that a long name stands for, whole or cut short. -/
def findLong (choices : List Choice) (name : String) : Except Octets Choice :=
  match choices.find? (·.long = name) with
  | some choice => .ok choice
  | none =>
    let fitting := choices.filter fun choice => choice.long ≠ "" && choice.long.startsWith name
    match fitting with
    | [choice] => .ok choice
    | [] => .error ("unrecognized option '--" ++ name ++ "'")
    | first :: rest =>
      if rest.all (·.key = first.key) then .ok first
      else .error ("option '--" ++ name ++ "' is ambiguous; possibilities:" ++
        String.join (fitting.map fun choice => " '--" ++ choice.long ++ "'"))

/-- Read the arguments of a program. Options may stand behind other arguments when the program
`permutes` them. -/
def readOptions (choices : List Choice) (permutes : Bool) : List Octets → Except Octets Given
  | [] => .ok {}
  | arg :: rest =>
    if arg = "--" then .ok { operands := rest }
    else if arg.startsWith "--" then
      let text := (arg.drop 2).toString
      let name := (text.takeWhile (· ≠ '=')).toString
      let hasValue := name.length < text.length
      let value := (text.drop (name.length + 1)).toString
      match findLong choices name with
      | .error why => .error why
      | .ok choice =>
        if choice.takes = .nothing && hasValue then
          .error ("option '--" ++ choice.long ++ "' doesn't allow an argument")
        else if choice.takes = .value && !hasValue then
          match rest with
          | value :: rest => (readOptions choices permutes rest).map (.cons choice.key value)
          | [] => .error ("option '--" ++ choice.long ++ "' requires an argument")
        else (readOptions choices permutes rest).map (.cons choice.key value)
    else if arg.startsWith "-" && arg ≠ "-" then
      match readLetters choices (arg.toList.drop 1) with
      | .error why => .error why
      | .ok (options, none) =>
        (readOptions choices permutes rest).map fun g =>
          { g with options := options ++ g.options }
      | .ok (options, some c) =>
        match rest with
        | value :: rest => (readOptions choices permutes rest).map fun g =>
            { g with options := options ++ (c, value) :: g.options }
        | [] => .error ("option requires an argument -- '" ++ String.ofList [c] ++ "'")
    else if permutes then (readOptions choices permutes rest).map (.consOperand arg)
    else .ok { operands := arg :: rest }

namespace Tool

def helpKey : Char := '\x01'

def versionKey : Char := '\x02'

def commonChoices : List Choice :=
  [.named helpKey "help", .named versionKey "version"]

def collection : Octets := "GNU coreutils) 9.1"

/-- Read the options of a program, or end with a status. Questions for help and for the version are
answered at once. -/
def options (choices : List Choice) (status : Nat := 1) (permutes : Bool := true)
    (version : Octets := collection) : Tool Given := do
  let i ← read
  match readOptions (choices ++ commonChoices) permutes i.args with
  | .error why => failWithHint status why
  | .ok given =>
    match given.last? [helpKey, versionKey] with
    | none => return given
    | some key =>
      if key = helpKey then print ("Usage: " ++ i.name ++ " [OPTION]...\n")
      else print (i.name ++ " (" ++ version ++ "\n")
      exit 0

def missingOperand {α : Type} (status : Nat := 1) : Tool α :=
  failWithHint status "missing operand"

end Tool

end Launchpad.Machine
