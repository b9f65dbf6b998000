/-!
The statements of shell scripts. A word is a list of pieces, some of them in quotes; a piece may
hold a whole script whose output it stands for. The texts that a script gives to its commands line
by line are kept in a table, and a redirection refers to its text by number.
-/

namespace Launchpad.Script

/-- What is asked of a parameter beside its value. For the first four, an empty value can count as
none. -/
inductive Use where
  | value
  /-- Another word in place of a value that is missing. -/
  | fallback (emptyCounts : Bool)
  /-- Another word in place of a value that is there. -/
  | substitute (emptyCounts : Bool)
  /-- Another word, which also becomes the value, in place of a value that is missing. -/
  | assign (emptyCounts : Bool)
  /-- A message in place of a value that is missing. -/
  | demand (emptyCounts : Bool)
  | length
  /-- The value without the end that a pattern fits. -/
  | cutBack (longest : Bool)
  /-- The value without the front that a pattern fits. -/
  | cutFront (longest : Bool)
  /-- Nothing that can be asked. -/
  | invalid
  deriving DecidableEq, Repr, Inhabited

inductive RedirectKind where
  /-- Read from a file. -/
  | read
  /-- Write to a file, which is emptied first. With `force` the file may be there already even if
  the shell is told to spare such files. -/
  | write (force : Bool)
  /-- Write behind the end of a file. -/
  | append
  /-- Read from a file and write to it. -/
  | both
  /-- Go where another descriptor goes. -/
  | duplicate
  /-- Read the text of some number. -/
  | document (number : Nat)
  deriving DecidableEq, Repr, Inhabited

mutual

inductive Piece where
  | text (content : String) (quoted : Bool)
  | parameter (name : String) (use : Use) (word : List Piece) (quoted : Bool)
  /-- What a script prints. -/
  | output (body : List Statement) (quoted : Bool)
  /-- The value of a sum. -/
  | arithmetic (expression : List Piece) (quoted : Bool)

inductive Redirect where
  | mk (descriptor : Nat) (kind : RedirectKind) (target : List Piece)

/-- A statement. Those that can fail by themselves know the line they stand in. -/
inductive Statement where
  | simple (line : Nat) (assignments : List (String × List Piece)) (words : List (List Piece))
    (redirects : List Redirect)
  /-- Each part reads what the part before it prints. -/
  | pipeline (parts : List Statement)
  /-- The script goes on without waiting for the end. -/
  | background (body : Statement)
  | negate (body : Statement)
  /-- The second only after success of the first. -/
  | both (first second : Statement)
  /-- The second only after failure of the first. -/
  | either (first second : Statement)
  | sequence (items : List Statement)
  | branch (condition body otherwise : Statement)
  /-- Repeat the body while the condition succeeds, or until it does. -/
  | loop (untilSuccess : Bool) (condition body : Statement)
  /-- The body for each word; without words, for each argument. -/
  | each (line : Nat) (name : String) (words? : Option (List (List Piece))) (body : Statement)
  /-- The body of the first arm with a pattern that the subject fits. -/
  | choose (line : Nat) (subject : List Piece) (arms : List (List (List Piece) × Statement))
  | group (line : Nat) (body : Statement) (redirects : List Redirect)
  /-- Like a group, but what the body changes in the shell is forgotten. -/
  | subshell (line : Nat) (body : Statement) (redirects : List Redirect)
  | define (name : String) (body : Statement)

end

abbrev Word := List Piece

def Statement.nothing : Statement := .sequence []

instance : Inhabited Statement := ⟨.nothing⟩
instance : Inhabited Piece := ⟨Piece.text "" false⟩

/-- The text of a word that consists of one piece without quotes. -/
def bareText? : Word → Option String
  | [.text content false] => some content
  | _ => none

def plainText? (w : Word) : Option String :=
  (w.mapM fun
    | Piece.text content _ => some content
    | _ => none).map String.join

def isNameChar (c : Char) : Bool := c.isAlphanum || c = '_'

/-- A name: a letter or an underscore, then letters, digits and underscores. -/
def isName (cs : List Char) : Bool :=
  match cs with
  | [] => false
  | c :: rest => (c.isAlpha || c = '_') && rest.all isNameChar

/-- A parameter with a name of one character that is no letter. -/
def isSpecialParameter (c : Char) : Bool :=
  ['@', '*', '#', '?', '-', '$', '!'].contains c || c.isDigit

/-- A word that gives a variable a value, taken apart. -/
def assignment? : Word → Option (String × Word)
  | .text content false :: rest =>
    let cs := content.toList
    let name := cs.takeWhile (· ≠ '=')
    match cs.dropWhile (· ≠ '=') with
    | '=' :: value =>
      if isName name then
        some (String.ofList name,
          if value = [] then rest else .text (String.ofList value) false :: rest)
      else none
    | _ => none
  | _ => none

end Launchpad.Script
