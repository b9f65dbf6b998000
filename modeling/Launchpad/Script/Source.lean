import Launchpad.Script.Statement

/-!
The text of a script while it is being read: what is left of it, the line that reading has come to,
and what is known about words that stand for others. A backslash at the end of a line joins the line
to the next one.
-/

namespace Launchpad.Script

inductive Token where
  | word (w : Word) (quoted : Bool)
  | keyword (text : String)
  | operator (text : String)
  /-- The sign of a redirection, with the descriptor that is named in front of it. -/
  | redirect (descriptor? : Option Nat) (sign : String)
  | lineEnd
  | finish
  deriving Inhabited

/-- The words that have a meaning where a command can start. -/
def keywords : List String :=
  ["!", "case", "do", "done", "elif", "else", "esac", "fi", "for", "if", "in", "then", "until",
    "while", "\x7b", "\x7d"]

/-- Commands of the shell whose names no function can have. -/
def reservedNames : List String :=
  [".", ":", "break", "continue", "eval", "exec", "exit", "export", "readonly", "return", "set",
    "shift", "times", "trap", "unset"]

namespace Token

def label : Token → String
  | .word _ _ => "word"
  | .keyword text => "\"" ++ text ++ "\""
  | .operator text => "\"" ++ text ++ "\""
  | .redirect _ _ => "redirection"
  | .lineEnd => "newline"
  | .finish => "end of file"

def isOperator (t : Token) (text : String) : Bool :=
  match t with
  | .operator own => own = text
  | _ => false

def isKeyword (t : Token) (text : String) : Bool :=
  match t with
  | .keyword own => own = text
  | _ => false

def endsList : Token → Bool
  | .finish => true
  | .operator text => text = ")" || text = ";;"
  | .keyword text =>
    ["do", "done", "elif", "else", "esac", "fi", "then", "\x7d"].contains text
  | _ => false

end Token

/-- A text of lines that is announced and still has to be read. -/
structure Announced where
  number : Nat
  delimiter : List Char
  /-- Nothing in the lines is expanded. -/
  literal : Bool
  /-- Tabs at the front of lines do not count. -/
  stripTabs : Bool

structure Source where
  rest : List Char
  line : Nat := 1
  announced : List Announced := []
  /-- The texts of lines that have been read. -/
  documents : Array Word := #[]
  /-- Words that stand for others. -/
  aliases : List (String × String) := []
  /-- The aliases whose texts are being read, each with how much will be left after its text. -/
  replaced : List (String × Nat) := []
  /-- A token that was read and not used. -/
  returned? : Option Token := none
  deriving Inhabited

structure Malformed where
  line : Nat
  text : String
  deriving DecidableEq, Repr, Inhabited

abbrev Reader := StateT Source (Except Malformed)

/-- Leave out backslashes that join lines. -/
def unfolded : List Char → Nat → List Char × Nat
  | '\\' :: '\n' :: rest, line => unfolded rest (line + 1)
  | cs, line => (cs, line)

namespace Reader

def refuse {α : Type} (text : String) : Reader α := do
  throw ⟨(← get).line, "Syntax error: " ++ text⟩

/-- Give up at a token, perhaps one in place of which another was expected. -/
def unexpected {α : Type} (found : Token) (expected? : Option String := none) : Reader α :=
  let behind := match expected? with
    | some "word" => " (expecting word)"
    | some expected => " (expecting \"" ++ expected ++ "\")"
    | none => ""
  refuse (found.label ++ " unexpected" ++ behind)

/-- The next character, without going on. -/
def peek : Reader (Option Char) :=
  modifyGet fun s =>
    let (rest, line) := unfolded s.rest s.line
    (rest.head?, { s with rest := rest, line := line })

def skip : Reader Unit :=
  modify fun s =>
    match s.rest with
    | '\n' :: rest => { s with rest := rest, line := s.line + 1 }
    | _ :: rest => { s with rest := rest }
    | [] => s

def next : Reader (Option Char) := do
  let c? ← peek
  skip
  return c?

/-- Go on behind the next character if it is a given one. -/
def accept (c : Char) : Reader Bool := do
  if (← peek) = some c then
    skip
    return true
  else return false

/-- Take characters up to a given one, which is left out, without a meaning for any of them. -/
def takeLiteral (closing : Char) : Reader (Option (List Char)) :=
  modifyGet fun s =>
    let inside := s.rest.takeWhile (· ≠ closing)
    match s.rest.dropWhile (· ≠ closing) with
    | _ :: rest =>
      let ends := inside.count '\n' + if closing = '\n' then 1 else 0
      (some inside, { s with rest := rest, line := s.line + ends })
    | [] => (none, s)

/-- Take characters as long as they fit; joined lines count as one. `fuel` bounds their number. -/
def takeWhile (fits : Char → Bool) : Nat → Reader (List Char)
  | 0 => return []
  | fuel + 1 => do
    match ← peek with
    | some c =>
      if fits c then
        skip
        return c :: (← takeWhile fits fuel)
      else return []
    | none => return []

def remaining : Reader Nat := return (← get).rest.length

def giveBack (t : Token) : Reader Unit :=
  modify fun s => { s with returned? := some t }

/-- Leave out blanks and comments. `fuel` bounds their number. -/
def skipGaps : Nat → Reader Unit
  | 0 => return ()
  | fuel + 1 => do
    match ← peek with
    | some ' ' => skip; skipGaps fuel
    | some '\t' => skip; skipGaps fuel
    | some '#' =>
      modify fun s => { s with rest := s.rest.dropWhile (· ≠ '\n') }
      skipGaps fuel
    | _ => return ()

end Reader

end Launchpad.Script
