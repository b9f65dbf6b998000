import Launchpad.Machine.Octets

/-!
Sums inside shell scripts: numbers of sixty-four bits with a sign, variables, the usual operators,
and assignments to variables. A sum is evaluated while it is read, so what stands before a mistake
has been done when the mistake is found.
-/

namespace Launchpad.Script

open Machine (Octets)

inductive SumToken where
  | number (n : Int)
  | name (text : String)
  | operator (text : String)
  /-- Something that has no place in a sum; nothing behind it is read. -/
  | wrong
  deriving DecidableEq, Repr, Inhabited

/-- A number kept between the least and the greatest number of sixty-four bits. -/
def clamp (n : Int) : Int :=
  if n > 9223372036854775807 then 9223372036854775807
  else if n < -9223372036854775808 then -9223372036854775808
  else n

/-- A number cut down to sixty-four bits. -/
def wrap (n : Int) : Int := n.bmod 18446744073709551616

def digit? (c : Char) : Option Nat :=
  if c.isDigit then some (c.toNat - '0'.toNat)
  else if 'a' ≤ c.toLower && c.toLower ≤ 'f' then some (c.toLower.toNat - 'a'.toNat + 10)
  else none

/-- Whether a character is a digit in some base. -/
def isDigitOf (base : Nat) (c : Char) : Bool := (digit? c).any (· < base)

/-- The number that digits of a base spell. -/
def digitsValue (base : Nat) (cs : List Char) : Nat :=
  cs.foldl (fun n c => n * base + (digit? c).getD 0) 0

/-- Read a number without a sign, and what is behind it: hexadecimal behind `0x`, octal behind a
zero, decimal otherwise. -/
def readNumber (cs : List Char) : Nat × List Char :=
  let inBase (base : Nat) (cs : List Char) : Nat × List Char :=
    (digitsValue base (cs.takeWhile (isDigitOf base)), cs.dropWhile (isDigitOf base))
  match cs with
  | '0' :: x :: d :: rest =>
    if (x = 'x' || x = 'X') && isDigitOf 16 d then inBase 16 (d :: rest) else inBase 8 cs
  | '0' :: _ => inBase 8 cs
  | cs => inBase 10 cs

/-- The number that a whole text spells, perhaps behind blanks and a sign, and in front of blanks. A
blank text spells zero. Numbers that are too great count as mistakes. -/
def wholeNumber? (text : Octets) : Option Int :=
  let isGap (c : Char) : Bool := c = ' ' || ('\t' ≤ c && c ≤ '\x0d')
  let trimmed := text.toList.dropWhile isGap
  let (negative, digits) : Bool × List Char := match trimmed with
    | '-' :: rest => (true, rest)
    | '+' :: rest => (false, rest)
    | rest => (false, rest)
  if digits.head?.any Char.isDigit then
    let (n, behind) := readNumber digits
    let value : Int := if negative then -(n : Int) else n
    if behind.all isGap && clamp value = value then some value else none
  else if trimmed = [] then some 0
  else none

namespace SumToken

def operators : List (List Char) :=
  ["<<=", ">>=", "||", "&&", "==", "!=", "<=", ">=", "<<", ">>", "+=", "-=", "*=", "/=", "%=", "|=",
    "&=", "^=", "+", "-", "*", "/", "%", "<", ">", "=", "!", "~", "&", "|", "^", "(", ")", "?",
    ":"].map String.toList

/-- Read all tokens. `fuel` bounds their number. -/
def readFuel : Nat → List Char → List SumToken
  | 0, _ => []
  | fuel + 1, cs =>
    match cs with
    | [] => []
    | c :: rest =>
      if c = ' ' || c = '\t' || c = '\n' then readFuel fuel rest
      else if c.isDigit then
        let (n, behind) := readNumber cs
        .number (clamp n) :: readFuel fuel behind
      else if c.isAlpha || c = '_' then
        let name := cs.takeWhile fun c => c.isAlphanum || c = '_'
        .name (String.ofList name) :: readFuel fuel (cs.drop name.length)
      else match operators.find? (·.isPrefixOf cs) with
        | some op => .operator (String.ofList op) :: readFuel fuel (cs.drop op.length)
        | none => [.wrong]

def read (text : Octets) : List SumToken :=
  readFuel (text.length + 1) text.toList

end SumToken

inductive SumFailure where
  | divisionByZero
  | missingOperand
  | unclosed
  | missingColon
  | leftOver
  /-- A variable holds a text that spells no number. -/
  | noNumber (text : Octets)
  deriving DecidableEq, Repr, Inhabited

/-- The text for a sum without a value. -/
def SumFailure.message (sum : Octets) (failure : SumFailure) : Octets :=
  let about (text : String) : Octets :=
    "arithmetic expression: " ++ text ++ ": \"" ++ sum ++ "\""
  match failure with
  | .divisionByZero => about "division by zero"
  | .missingOperand => about "expecting primary"
  | .unclosed => about "expecting ')'"
  | .missingColon => about "expecting ':'"
  | .leftOver => about "expecting EOF"
  | .noNumber text => "Illegal number: " ++ text

/-- One for what holds, zero for what does not. -/
def ofBool (b : Bool) : Int := if b then 1 else 0

/-- Combine two numbers. A quotient goes toward zero; there is none by zero. -/
def combine (operator : String) (a b : Int) : Except SumFailure Int :=
  match operator with
  | "|" => .ok ((Int64.ofInt a ||| Int64.ofInt b).toInt)
  | "^" => .ok ((Int64.ofInt a ^^^ Int64.ofInt b).toInt)
  | "&" => .ok ((Int64.ofInt a &&& Int64.ofInt b).toInt)
  | "==" => .ok (ofBool (a = b))
  | "!=" => .ok (ofBool (a ≠ b))
  | "<" => .ok (ofBool (a < b))
  | ">" => .ok (ofBool (a > b))
  | "<=" => .ok (ofBool (a ≤ b))
  | ">=" => .ok (ofBool (a ≥ b))
  | "<<" => .ok (wrap (a * Int.ofNat (Nat.pow 2 (b % 64).toNat)))
  | ">>" => .ok (a / Int.ofNat (Nat.pow 2 (b % 64).toNat))
  | "+" => .ok (wrap (a + b))
  | "-" => .ok (wrap (a - b))
  | "*" => .ok (wrap (a * b))
  | "/" => if b = 0 then .error .divisionByZero else .ok (wrap (a.tdiv b))
  | "%" => if b = 0 then .error .divisionByZero else .ok (a.tmod b)
  | _ => .error .missingOperand

/-- How loosely an operator between two operands binds. -/
def looseness? (operator : String) : Option Nat :=
  [["*", "/", "%"], ["+", "-"], ["<<", ">>"], ["<", ">", "<=", ">="], ["==", "!="], ["&"], ["^"],
    ["|"]].findIdx? (·.contains operator)

/-- The operator inside an assignment: none for a plain one. -/
def assigning? (operator : String) : Option (Option String) :=
  if operator = "=" then some none
  else if ["+=", "-=", "*=", "/=", "%=", "|=", "&=", "^=", "<<=", ">>="].contains operator then
    some (some (String.ofList operator.toList.dropLast))
  else none

/-- A sum while it is evaluated: the tokens that are left, and the values that were assigned, last
ones first. -/
structure SumState where
  tokens : List SumToken
  assigned : List (String × Int) := []

abbrev SumReader := StateT SumState (Except SumFailure)

namespace SumReader

/-- The next token is a given operator, which is left out. -/
def accept (operator : String) : SumReader Bool :=
  modifyGet fun s =>
    match s.tokens with
    | .operator own :: rest => if own = operator then (true, { s with tokens := rest }) else
        (false, s)
    | _ => (false, s)

def valueOf (texts : String → Octets) (name : String) : SumReader Int := do
  match (← get).assigned.lookup name with
  | some n => return n
  | none =>
    match wholeNumber? (texts name) with
    | some n => return n
    | none => throw (.noNumber (texts name))

mutual

/-- Evaluate an assignment or a choice. What is `idle` has a value and does nothing. -/
def assignment (texts : String → Octets) (idle : Bool) : Nat → SumReader Int
  | 0 => throw .missingOperand
  | fuel + 1 => do
    match (← get).tokens with
    | .name name :: .operator operator :: rest =>
      match assigning? operator with
      | some inner? =>
        modify fun s => { s with tokens := rest }
        let result ← assignment texts idle fuel
        if idle then return result
        else
          let value ← match inner? with
            | none => pure result
            | some inner => combine inner (← valueOf texts name) result
          modify fun s => { s with assigned := (name, value) :: s.assigned }
          return value
      | none => choice texts idle fuel
    | _ => choice texts idle fuel

/-- Evaluate a condition with one value for each case. -/
def choice (texts : String → Octets) (idle : Bool) : Nat → SumReader Int
  | 0 => throw .missingOperand
  | fuel + 1 => do
    let a ← disjunction texts idle fuel
    if ← accept "?" then
      let b ← assignment texts (idle || a = 0) fuel
      if ← accept ":" then
        let c ← choice texts (idle || a ≠ 0) fuel
        return if a ≠ 0 then b else c
      else throw .missingColon
    else return a

def disjunction (texts : String → Octets) (idle : Bool) : Nat → SumReader Int
  | 0 => throw .missingOperand
  | fuel + 1 => do
    let a ← conjunction texts idle fuel
    if ← accept "||" then
      let b ← disjunction texts (idle || a ≠ 0) fuel
      return ofBool (a ≠ 0 || b ≠ 0)
    else return a

def conjunction (texts : String → Octets) (idle : Bool) : Nat → SumReader Int
  | 0 => throw .missingOperand
  | fuel + 1 => do
    let first ← primary texts idle fuel
    let a ← combined texts idle first 8 fuel
    if ← accept "&&" then
      let b ← conjunction texts (idle || a = 0) fuel
      return ofBool (a ≠ 0 && b ≠ 0)
    else return a

/-- Go on behind a first operand with operators that bind more tightly than a limit. -/
def combined (texts : String → Octets) (idle : Bool) (a : Int) (limit : Nat) :
    Nat → SumReader Int
  | 0 => throw .missingOperand
  | fuel + 1 => do
    match (← get).tokens with
    | .operator operator :: rest =>
      match looseness? operator with
      | some looseness =>
        if looseness < limit then
          modify fun s => { s with tokens := rest }
          let first ← primary texts idle fuel
          let b ← combined texts idle first looseness fuel
          let value ← if idle then pure b else combine operator a b
          combined texts idle value limit fuel
        else return a
      | none => return a
    | _ => return a

def primary (texts : String → Octets) (idle : Bool) : Nat → SumReader Int
  | 0 => throw .missingOperand
  | fuel + 1 => do
    let s ← get
    set { s with tokens := s.tokens.drop 1 }
    match s.tokens with
    | .number n :: _ => return n
    | .name name :: _ => if idle then return 0 else valueOf texts name
    | .operator "(" :: _ =>
      let a ← assignment texts idle fuel
      if ← accept ")" then return a else throw .unclosed
    | .operator "+" :: _ => primary texts idle fuel
    | .operator "-" :: _ => return wrap (-(← primary texts idle fuel))
    | .operator "!" :: _ => return ofBool ((← primary texts idle fuel) = 0)
    | .operator "~" :: _ => return -(← primary texts idle fuel) - 1
    | _ => throw .missingOperand

end

end SumReader

/-- Evaluate a sum whose variables have texts: its value, and the values that it assigns, first ones
first. -/
def evaluate (texts : String → Octets) (text : Octets) :
    Except SumFailure (Int × List (String × Int)) :=
  let tokens := SumToken.read text
  match (SumReader.assignment texts false (16 * tokens.length + 32)).run { tokens := tokens } with
  | .error failure => .error failure
  | .ok (n, s) => if s.tokens = [] then .ok (n, s.assigned.reverse) else .error .leftOver

end Launchpad.Script
