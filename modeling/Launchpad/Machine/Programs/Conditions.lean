import Launchpad.Machine.Programs.Format

/-!
Conditions on texts, numbers and files, given as arguments. The answer is a status. The command
inside a shell and the program outside of it follow the same rules and differ in their messages.
-/

namespace Launchpad.Machine.Programs

inductive TestWord where
  | unary
  | binary
  | negation
  | conjunction
  | disjunction
  | opening
  | closing
  deriving DecidableEq, Repr, Inhabited

namespace TestWord

def of? (extended : Bool) (word : Octets) : Option TestWord :=
  match word with
  | "!" => some .negation
  | "-a" => some .conjunction
  | "-o" => some .disjunction
  | "(" => some .opening
  | ")" => some .closing
  | "==" => if extended then some .binary else none
  | word =>
    if ["=", "!=", "<", ">", "-eq", "-ne", "-ge", "-gt", "-le", "-lt", "-nt", "-ot",
        "-ef"].contains word then some .binary
    else match word.toList with
      | ['-', c] => if "rwxefdcbpugkstznhOGLS".toList.contains c then some .unary else none
      | _ => none

end TestWord

inductive TestFailure where
  | misplaced (word : Octets)
  | unclosed (last : Octets)
  | missing (word : Octets)
  | noNumber (word : Octets)
  | unknownUnary (word : Octets)
  | unknownBinary (word : Octets)

structure TestContext where
  files : FileSystem
  extended : Bool

abbrev TestReader := ReaderT TestContext (StateT (List Octets) (Except TestFailure))

namespace TestReader

/-- Whether a word at the front is to be compared although it looks like a test on one operand. -/
def isOperand (words : List Octets) : TestReader Bool := do
  match words with
  | [_] => return true
  | [_, _] => return false
  | _ :: next :: _ => return TestWord.of? (← read).extended next = some .binary
  | [] => return true

/-- The kind of the word at the front; none for a plain word. -/
def kindOf (words : List Octets) : TestReader (Option TestWord) := do
  match words with
  | [] => return none
  | word :: rest =>
    match TestWord.of? (← read).extended word with
    | some .unary => if ← isOperand words then return none else return some .unary
    | some .opening => return if rest = [] then none else some .opening
    | kind? => return kind?

def number (word : Octets) : TestReader Int := do
  let isGap (c : Char) : Bool := c = ' ' || ('\t' ≤ c && c ≤ '\x0d')
  let cs := (word.toList.dropWhile isGap).reverse.dropWhile isGap
  let (negative, digits) : Bool × List Char := match cs.reverse with
    | '-' :: rest => (true, rest)
    | '+' :: rest => (false, rest)
    | rest => (false, rest)
  match natural? digits with
  | some n =>
    let value : Int := if negative then -(n : Int) else n
    if Script.clamp value = value || (← read).extended then return value
    else throw (.noNumber word)
  | none => throw (.noNumber word)

def unary (operator operand : Octets) : TestReader Bool := do
  let files := (← read).files
  let path := Octets.path operand
  let found? := (files.status path).toOption.map (·.2)
  match operator with
  | "-n" => return operand ≠ ""
  | "-z" => return operand = ""
  | "-t" =>
    let _ ← number operand
    return false
  | _ =>
    match (operator.drop 1).toString.toList with
    | [c] =>
      if c = 'h' || c = 'L' then
        match files.find path false with
        | .ok (_, { node := .link _, .. }) => return true
        | _ => return false
      else
        return found?.any fun e =>
          match c with
          | 'e' => true
          | 'O' => true
          | 'G' => true
          | 'f' => e.isFile
          | 'd' => e.isDirectory
          | 'r' => e.readable
          | 'w' => e.writable
          | 'x' => e.executable
          | 'c' => match e.node with
            | .device _ => true
            | _ => false
          | 's' => match e.node with
            | .file content => content.size > 0
            | .directory => true
            | _ => false
          | 'u' => e.mode.testBit 11
          | 'g' => e.mode.testBit 10
          | 'k' => e.mode.testBit 9
          | _ => false
    | _ => return false

def binary (left operator right : Octets) : TestReader Bool := do
  let files := (← read).files
  let compare (f : Int → Int → Bool) : TestReader Bool := do
    let a ← number left
    let b ← number right
    return f a b
  let modified (p : Octets) : Option Timestamp := (files.modified (Octets.path p)).toOption
  let serial (p : Octets) : Option Nat := (files.status (Octets.path p)).toOption.map (·.2.serial)
  match operator with
  | "=" => return left = right
  | "==" => return left = right
  | "!=" => return left ≠ right
  | "<" => return left < right
  | ">" => return right < left
  | "-eq" => compare (· == ·)
  | "-ne" => compare (· != ·)
  | "-lt" => compare (· < ·)
  | "-le" => compare (· ≤ ·)
  | "-gt" => compare (· > ·)
  | "-ge" => compare (· ≥ ·)
  | "-nt" =>
    match modified left, modified right with
    | some a, some b => return b < a
    | a?, _ => return (← read).extended && a?.isSome
  | "-ot" =>
    match modified left, modified right with
    | some a, some b => return a < b
    | _, b? => return (← read).extended && b?.isSome
  | _ => return (serial left).isSome && serial left = serial right

mutual

def anyOf (kind? : Option TestWord) : Nat → TestReader Bool
  | 0 => return false
  | fuel + 1 => do
    let a ← allOf kind? fuel
    let words ← get
    if (← kindOf (words.drop 1)) = some .disjunction then
      set (words.drop 2)
      let b ← anyOf (← kindOf (words.drop 2)) fuel
      return a || b
    else return a

def allOf (kind? : Option TestWord) : Nat → TestReader Bool
  | 0 => return false
  | fuel + 1 => do
    let a ← negatable kind? fuel
    let words ← get
    if (← kindOf (words.drop 1)) = some .conjunction then
      set (words.drop 2)
      let b ← allOf (← kindOf (words.drop 2)) fuel
      return a && b
    else return a

def negatable (kind? : Option TestWord) : Nat → TestReader Bool
  | 0 => return false
  | fuel + 1 => do
    if kind? = some .negation then
      let words ← get
      let next? ← kindOf (words.drop 1)
      if words.length > 1 then set (words.drop 1)
      let a ← if words.length > 1 then negatable next? fuel else pure false
      return !a
    else single kind? fuel

def single (kind? : Option TestWord) : Nat → TestReader Bool
  | 0 => return false
  | fuel + 1 => do
    let words ← get
    match kind?, words with
    | _, [] => return false
    | some .opening, word :: rest =>
      set rest
      let inner? ← kindOf rest
      if inner? = some .closing then return false
      else
        let a ← anyOf inner? fuel
        let behind := (← get).drop 1
        if (← kindOf behind) = some .closing then
          set behind
          return a
        else throw (.unclosed (((← get).head?).getD word))
    | some .unary, operator :: rest =>
      match rest with
      | operand :: _ =>
        set rest
        unary operator operand
      | [] => throw (.missing operator)
    | _, word :: rest =>
      if (← kindOf rest) = some .binary then
        match rest with
        | operator :: right :: more =>
          set (right :: more)
          binary word operator right
        | operator :: [] => throw (.missing operator)
        | [] => return word ≠ ""
      else return word ≠ ""

end

/-- Evaluate a whole condition of at least one word, with the special rules for few words. -/
def whole (words : List Octets) : TestReader Bool := do
  let fuel := 8 * words.length + 8
  let extended := (← read).extended
  let isBinary : Bool := match words with
    | [_, operator, _] => TestWord.of? extended operator = some .binary
    | _ => false
  let inBrackets : Bool := (words.length = 3 || words.length = 4) && words.head? = some "(" &&
    words.getLast? = some ")"
  let words := if !isBinary && inBrackets then (words.drop 1).dropLast else words
  set words
  let first? ← if isBinary then pure none
    else if (words.length = 3 || words.length = 4) && words.head? = some "!" then
      pure (some .negation)
    else kindOf words
  let answer ← anyOf first? fuel
  match ← get with
  | word :: next :: _ => throw (if extended then .misplaced next else .misplaced word)
  | _ => return answer

end TestReader

/-- A message for a condition without an answer: that of the command inside a shell, or that of the
program outside of it. -/
def TestFailure.message (extended : Bool) : TestFailure → Octets
  | .misplaced word =>
    if extended then "extra argument " ++ Quoting.plain word else word ++ ": unexpected operator"
  | .unclosed last =>
    if extended then "missing argument after " ++ Quoting.plain last else "closing paren expected"
  | .missing word =>
    if extended then "missing argument after " ++ Quoting.plain word
    else word ++ ": argument expected"
  | .noNumber word =>
    if extended then "invalid integer " ++ Quoting.plain word else "Illegal number: " ++ word
  | .unknownUnary word => Quoting.plain word ++ ": unary operator expected"
  | .unknownBinary word => Quoting.plain word ++ ": binary operator expected"

def evaluateTest (context : TestContext) (words : List Octets) : Except TestFailure Bool :=
  let known (word : Octets) (kind : TestWord) : Bool := TestWord.of? true word = some kind
  match words with
  | [] => .ok false
  | [word] => if context.extended then .ok (word ≠ "") else
      (((TestReader.whole [word]) context).run []).map (·.1)
  | words =>
    if context.extended then
      match words with
      | [first, second] =>
        if first = "!" || known first .unary then
          (((TestReader.whole words) context).run []).map (·.1)
        else if first.startsWith "-" && first.length = 2 then .error (.unknownUnary first)
        else .error (.missing second)
      | [first, second, third] =>
        if known second .binary || known second .conjunction || known second .disjunction ||
            first = "!" || (first = "(" && third = ")") then
          (((TestReader.whole words) context).run []).map (·.1)
        else .error (.unknownBinary second)
      | words => (((TestReader.whole words) context).run []).map (·.1)
    else (((TestReader.whole words) context).run []).map (·.1)

/-- The status zero for a condition that holds, one for any other. -/
def testWith (extended : Bool) : Program := do
  let i ← Tool.invocation
  let called := ((i.name.splitOn "/").getLast?).getD i.name
  let isBracket := called = "[" || called.endsWith " ["
  if isBracket && i.args.getLast? ≠ some "]" then
    Tool.fail 2 (if extended then "missing " ++ Quoting.plain "]" else "missing ]")
  else
    let words := if isBracket then i.args.dropLast else i.args
    match evaluateTest ⟨← Tool.files, extended⟩ words with
    | .ok true => Tool.exit 0
    | .ok false => Tool.exit 1
    | .error failure => Tool.fail 2 (failure.message extended)

def shellTest : Program := testWith false

def test : Program := testWith true

end Launchpad.Machine.Programs
