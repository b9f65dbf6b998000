import Launchpad.Machine.Octets

/-!
Programs for records. A program is a list of rules: what a rule does is done for every record that
its pattern picks, before the first record, or behind the last one.
-/

namespace Launchpad.Machine.Programs.Records

inductive Arith where
  | add | subtract | multiply | divide | remainder | power
  deriving DecidableEq, Repr, Inhabited

inductive Comparison where
  | less | lessEqual | equal | unequal | greater | greaterEqual
  deriving DecidableEq, Repr, Inhabited

def Comparison.holds : Comparison → Ordering → Bool
  | .less, o => o = .lt
  | .lessEqual, o => o ≠ .gt
  | .equal, o => o = .eq
  | .unequal, o => o ≠ .eq
  | .greater, o => o = .gt
  | .greaterEqual, o => o ≠ .lt

def Comparison.holdsFor (c : Comparison) (x y : Float) : Bool :=
  match c with
  | .less => x < y
  | .lessEqual => x ≤ y
  | .equal => x == y
  | .unequal => x != y
  | .greater => x > y
  | .greaterEqual => x ≥ y

mutual

/-- Where `getline` reads from. -/
inductive Origin where
  | input
  | file (path : Expr)
  | command (text : Expr)

inductive Expr where
  | number (x : Float)
  | text (content : Octets)
  /-- A regular expression; by itself it asks whether the record fits. -/
  | pattern (source : Octets)
  | name (name : String)
  | element (table : String) (keys : List Expr)
  | field (number : Expr)
  /-- Several expressions between brackets. -/
  | several (items : List Expr)
  | assign (operation? : Option Arith) (target value : Expr)
  | choose (condition first second : Expr)
  | either (first second : Expr)
  | both (first second : Expr)
  | isKey (keys : List Expr) (table : String)
  | fits (negated : Bool) (subject pattern : Expr)
  | compare (comparison : Comparison) (first second : Expr)
  | concat (first second : Expr)
  | arith (operation : Arith) (first second : Expr)
  | not (body : Expr)
  | negate (body : Expr)
  | plus (body : Expr)
  /-- Add a number to what is stored; the value is that from before the step or from behind it. -/
  | step (before : Bool) (difference : Float) (target : Expr)
  | builtin (name : String) (args : List Expr)
  | call (function : String) (args : List Expr)
  | getline (target? : Option Expr) (origin : Origin)

end

instance : Inhabited Expr := ⟨.number 0⟩

def Expr.isTarget : Expr → Bool
  | .name _ => true
  | .element _ _ => true
  | .field _ => true
  | _ => false

inductive Destination where
  | output
  | file (append : Bool) (path : Expr)
  | command (text : Expr)

inductive Statement where
  | block (items : List Statement)
  | expression (e : Expr)
  | print (items : List Expr) (destination : Destination)
  | printFormat (items : List Expr) (destination : Destination)
  | branch (condition : Expr) (body : Statement) (otherwise : Statement)
  | whileLoop (condition : Expr) (body : Statement)
  | doLoop (body : Statement) (condition : Expr)
  | forLoop (first? condition? step? : Option Expr) (body : Statement)
  | keyLoop (name : String) (table : String) (body : Statement)
  | next
  | nextFile
  | exit (status? : Option Expr)
  | returnValue (value? : Option Expr)
  | breakLoop
  | continueLoop
  /-- Remove one value of a table, or all of them. -/
  | delete (table : String) (keys : List Expr)

instance : Inhabited Statement := ⟨.block []⟩

inductive Selector where
  | before
  | behind
  | every
  | when (condition : Expr)
  /-- From one record to another. -/
  | range (first last : Expr)

instance : Inhabited Selector := ⟨.every⟩

structure Rule where
  selector : Selector
  body : Statement
  deriving Inhabited

structure Function where
  parameters : List String
  body : Statement

structure Script where
  rules : Array Rule
  functions : List (String × Function)

end Launchpad.Machine.Programs.Records
