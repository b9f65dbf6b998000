import Launchpad.Machine.Programs.Records.Syntax
import Launchpad.Machine.Programs.Records.Token

/-!
Reading programs for records from their words. Operators bind in the order assignment, choice, or,
and, membership, fitting, comparison, joining, sums, products, signs, pipes, powers, steps and
fields. Inside of a print statement a sign that says where the output goes is no operator.
-/

namespace Launchpad.Machine.Programs.Records

structure ReadingState where
  rest : List Placed
  /-- The line behind the last one. -/
  lastLine : Nat
  /-- The names of all functions of the program. -/
  defined : List String
  /-- The functions that are called, with the line and the number of arguments. -/
  called : List (String × Nat × Nat) := []
  loops : Nat := 0
  inFunction : Bool := false
  /-- Inside of a rule for before the first record or behind the last one. -/
  atEdge : Bool := false

abbrev Reader := StateT ReadingState (Except ScriptError)

namespace Reader

def peek : Reader Token :=
  return ((← get).rest.head?.map (·.token)).getD .textEnd

/-- Go on behind the next word. -/
def advance : Reader Unit :=
  modify fun s => { s with rest := s.rest.drop 1 }

def line : Reader Nat := do
  let s ← get
  return (s.rest.head?.map (·.line)).getD s.lastLine

/-- Fail with a message about the current line. -/
def problem {α : Type} (text : Octets) : Reader α := do
  throw ⟨"line " ++ toString (← line) ++ ": " ++ text⟩

def refuse {α : Type} : Reader α := do
  match (← get).rest with
  | [] => problem "missing \x7d near end of file"
  | w :: _ =>
    let ends : Bool := match w.token with
      | .lineEnd => true
      | .sign s => s = ";" || s = "\x7d"
      | _ => false
    if ends && w.depth > 0 then problem ("missing ) near " ++ w.written)
    else problem ("syntax error at or near " ++ w.written)

def isSign (text : String) : Reader Bool := do
  match ← peek with
  | .sign s => return s = text
  | _ => return false

def isKeyword (word : String) : Reader Bool := do
  match ← peek with
  | .keyword w => return w = word
  | _ => return false

/-- Go on behind a sign that has to stand here. -/
def expect (text : String) : Reader Unit := do
  if ← isSign text then advance else refuse

/-- Go on behind the ends of lines, and behind semicolons too. -/
def skipEnds (semicolons : Bool) : Reader Unit :=
  modify fun s => { s with
    rest := s.rest.dropWhile fun w =>
      match w.token with
      | .lineEnd => true
      | .sign s => semicolons && s = ";"
      | _ => false }

def name : Reader String := do
  match ← peek with
  | .name n _ =>
    advance
    return n
  | _ => refuse

def operatorAt (level : Nat) (printing : Bool) (t : Token) : Option (Expr → Expr → Expr) :=
  match level, t with
  | 0, .sign "||" => some .either
  | 1, .sign "&&" => some .both
  | 3, .sign "~" => some (.fits false)
  | 3, .sign "!~" => some (.fits true)
  | 4, .sign "<" => some (.compare .less)
  | 4, .sign "<=" => some (.compare .lessEqual)
  | 4, .sign "==" => some (.compare .equal)
  | 4, .sign "!=" => some (.compare .unequal)
  | 4, .sign ">=" => some (.compare .greaterEqual)
  | 4, .sign ">" => if printing then none else some (.compare .greater)
  | 5, .sign "+" => some (.arith .add)
  | 5, .sign "-" => some (.arith .subtract)
  | 6, .sign "*" => some (.arith .multiply)
  | 6, .sign "/" => some (.arith .divide)
  | 6, .sign "%" => some (.arith .remainder)
  | _, _ => none

/-- The operation of an assignment, none for a plain one. -/
def assignmentOf? : Token → Option (Option Arith)
  | .sign "=" => some none
  | .sign "+=" => some (some .add)
  | .sign "-=" => some (some .subtract)
  | .sign "*=" => some (some .multiply)
  | .sign "/=" => some (some .divide)
  | .sign "%=" => some (some .remainder)
  | .sign "^=" => some (some .power)
  | _ => none

/-- Whether an operand of a joining can begin with a word. -/
def startsValue : Token → Bool
  | .number _ => true
  | .text _ => true
  | .pattern _ => true
  | .name _ _ => true
  | .builtin _ => true
  | .sign s => ["$", "!", "(", "++", "--"].contains s
  | _ => false

mutual

def expr (printing : Bool) : Nat → Reader Expr
  | 0 => refuse
  | fuel + 1 => do
    let condition ← binary 0 printing fuel
    if ← isSign "?" then
      advance
      let first ← expr printing fuel
      expect ":"
      return .choose condition first (← expr printing fuel)
    else return condition
termination_by structural fuel => fuel

def binary (level : Nat) (printing : Bool) : Nat → Reader Expr
  | 0 => refuse
  | fuel + 1 => do
    let first ← operand level printing fuel
    moreBinary level printing first fuel
termination_by structural fuel => fuel

def operand (level : Nat) (printing : Bool) : Nat → Reader Expr
  | 0 => refuse
  | fuel + 1 => do
    if level = 4 then joined printing fuel
    else if level = 6 then signed printing fuel
    else binary (level + 1) printing fuel
termination_by structural fuel => fuel

def moreBinary (level : Nat) (printing : Bool) (first : Expr) : Nat → Reader Expr
  | 0 => refuse
  | fuel + 1 => do
    let t ← peek
    match operatorAt level printing t with
    | some make =>
      advance
      if level < 2 then skipEnds false
      let second ← operand level printing fuel
      moreBinary level printing (make first second) fuel
    | none =>
      if level = 2 && (← isKeyword "in") then
        advance
        let table ← name
        let keys := match first with
          | .several keys => keys
          | e => [e]
        moreBinary level printing (.isKey keys table) fuel
      else return first
termination_by structural fuel => fuel

/-- Read values that stand behind each other, or an assignment. -/
def joined (printing : Bool) : Nat → Reader Expr
  | 0 => refuse
  | fuel + 1 => do
    let first ← binary 5 printing fuel
    match first.isTarget, assignmentOf? (← peek) with
    | true, some operation? =>
      advance
      return .assign operation? first (← expr printing fuel)
    | _, _ => moreJoined printing first fuel
termination_by structural fuel => fuel

def moreJoined (printing : Bool) (first : Expr) : Nat → Reader Expr
  | 0 => refuse
  | fuel + 1 => do
    if startsValue (← peek) then
      let second ← binary 5 printing fuel
      moreJoined printing (.concat first second) fuel
    else return first
termination_by structural fuel => fuel

def signed (printing : Bool) : Nat → Reader Expr
  | 0 => refuse
  | fuel + 1 => do
    match ← peek with
    | .sign "!" =>
      advance
      return .not (← signed printing fuel)
    | .sign "-" =>
      advance
      return .negate (← signed printing fuel)
    | .sign "+" =>
      advance
      return .plus (← signed printing fuel)
    | _ =>
      let first ← power fuel
      piped printing first fuel
termination_by structural fuel => fuel

def piped (printing : Bool) (first : Expr) : Nat → Reader Expr
  | 0 => refuse
  | fuel + 1 => do
    if !printing && (← isSign "|") then
      advance
      if ← isKeyword "getline" then
        advance
        let target? ← target fuel
        piped printing (.getline target? (.command first)) fuel
      else refuse
    else return first
termination_by structural fuel => fuel

def power : Nat → Reader Expr
  | 0 => refuse
  | fuel + 1 => do
    let base ← stepped fuel
    if ← isSign "^" then
      advance
      match ← peek with
      | .sign "-" =>
        advance
        return .arith .power base (.negate (← power fuel))
      | .sign "+" =>
        advance
        return .arith .power base (← power fuel)
      | .sign "!" =>
        advance
        return .arith .power base (.not (← power fuel))
      | _ => return .arith .power base (← power fuel)
    else return base
termination_by structural fuel => fuel

def stepped : Nat → Reader Expr
  | 0 => refuse
  | fuel + 1 => do
    let first ← single fuel
    if !first.isTarget then return first
    match ← peek with
    | .sign "++" =>
      advance
      return .step true 1 first
    | .sign "--" =>
      advance
      return .step true (-1) first
    | _ => return first
termination_by structural fuel => fuel

/-- Read what `getline` stores into, if it is given. -/
def target : Nat → Reader (Option Expr)
  | 0 => refuse
  | fuel + 1 => do
    match ← peek with
    | .name _ false => return some (← single fuel)
    | .sign "$" => return some (← single fuel)
    | _ => return none
termination_by structural fuel => fuel

def list (printing : Bool) : Nat → Reader (List Expr)
  | 0 => refuse
  | fuel + 1 => do
    let first ← expr printing fuel
    if ← isSign "," then
      advance
      skipEnds false
      return first :: (← list printing fuel)
    else return [first]
termination_by structural fuel => fuel

def arguments : Nat → Reader (List Expr)
  | 0 => refuse
  | fuel + 1 => do
    expect "("
    if ← isSign ")" then
      advance
      return []
    else
      let args ← list false fuel
      expect ")"
      return args
termination_by structural fuel => fuel

/-- Read a value without operators. -/
def single : Nat → Reader Expr
  | 0 => refuse
  | fuel + 1 => do
    let row ← line
    match ← peek with
    | .number x =>
      advance
      return .number x
    | .text s =>
      advance
      return .text s
    | .pattern s =>
      advance
      return .pattern s
    | .name n called =>
      advance
      if called || ((← get).defined.contains n && (← isSign "(")) then
        let args ← arguments fuel
        modify fun s => { s with called := (n, row, args.length) :: s.called }
        return .call n args
      else if ← isSign "[" then
        advance
        let keys ← list false fuel
        expect "]"
        return .element n keys
      else return .name n
    | .builtin n =>
      advance
      if n = "length" && !(← isSign "(") then return .builtin n []
      else
        let args ← arguments fuel
        let (least, most) := (builtinFunctions.lookup n).getD (0, 0)
        if n = "length" && args.length > 1 then refuse
        if args.length < least || args.length > most then
          throw ⟨"line " ++ toString row ++ ": wrong number of arguments in call to " ++ n⟩
        return .builtin n args
    | .keyword "getline" =>
      advance
      let target? ← target fuel
      if ← isSign "<" then
        advance
        let path ← power fuel
        return .getline target? (.file path)
      else return .getline target? .input
    | .sign "(" =>
      advance
      let items ← list false fuel
      expect ")"
      match items with
      | [e] => return e
      | items => return .several items
    | .sign "$" =>
      advance
      match ← peek with
      | .sign "-" =>
        advance
        return .field (.negate (← single fuel))
      | .sign "+" =>
        advance
        return .field (← single fuel)
      | .sign "!" =>
        advance
        return .field (.not (← single fuel))
      | _ => return .field (← single fuel)
    | .sign "++" =>
      advance
      let e ← single fuel
      if e.isTarget then return .step false 1 e else refuse
    | .sign "--" =>
      advance
      let e ← single fuel
      if e.isTarget then return .step false (-1) e else refuse
    | _ => refuse
termination_by structural fuel => fuel

end

def statementEnd : Reader Unit := do
  match ← peek with
  | .lineEnd => skipEnds false
  | .sign ";" =>
    advance
    skipEnds false
  | .sign "\x7d" => return ()
  | _ => refuse

def printed (fuel : Nat) : Reader (List Expr × Destination) := do
  let ends : Bool := match ← peek with
    | .lineEnd => true
    | .sign s => [";", "\x7d", ">", ">>", "|"].contains s
    | _ => false
  let items ← if ends then pure [] else list true fuel
  let items := match items with
    | [.several items] => items
    | items => items
  match ← peek with
  | .sign ">" =>
    advance
    return (items, .file false (← expr false fuel))
  | .sign ">>" =>
    advance
    return (items, .file true (← expr false fuel))
  | .sign "|" =>
    advance
    return (items, .command (← expr false fuel))
  | _ => return (items, .output)

/-- Read an expression that need not be there before the end of a statement. -/
def perhapsExpr (fuel : Nat) : Reader (Option Expr) := do
  match ← peek with
  | .lineEnd => return none
  | .sign s =>
    if [";", "\x7d", ")"].contains s then return none else return some (← expr false fuel)
  | _ => return some (← expr false fuel)

def plain (fuel : Nat) : Reader Statement := do
  match ← peek with
  | .keyword "print" =>
    advance
    let (items, destination) ← printed fuel
    return .print items destination
  | .keyword "printf" =>
    advance
    let (items, destination) ← printed fuel
    if items.isEmpty then problem "no arguments in call to printf"
    return .printFormat items destination
  | .keyword "next" =>
    if (← get).atEdge then problem "improper use of next"
    advance
    return .next
  | .keyword "nextfile" =>
    if (← get).atEdge then problem "improper use of nextfile"
    advance
    return .nextFile
  | .keyword "exit" =>
    advance
    return .exit (← perhapsExpr fuel)
  | .keyword "return" =>
    if !(← get).inFunction then problem "return outside function body"
    advance
    return .returnValue (← perhapsExpr fuel)
  | .keyword "break" =>
    if (← get).loops = 0 then problem "break statement outside of loop"
    advance
    return .breakLoop
  | .keyword "continue" =>
    if (← get).loops = 0 then problem "continue statement outside of loop"
    advance
    return .continueLoop
  | .keyword "delete" =>
    advance
    let table ← name
    if ← isSign "[" then
      advance
      let keys ← list false fuel
      expect "]"
      return .delete table keys
    else return .delete table []
  | _ => return .expression (← expr false fuel)

/-- The names in the head of a loop over keys, when one stands here. -/
def keyLoopHead? : Reader (Option (String × String)) := do
  let front : List Token := ((← get).rest.take 4).map (·.token)
  match front with
  | [.name n _, .keyword "in", .name table _, .sign ")"] =>
    modify fun s => { s with rest := s.rest.drop 4 }
    return some (n, table)
  | _ => return none

/-- Read a condition between brackets, and go on behind the ends of lines. -/
def bracketed (fuel : Nat) : Reader Expr := do
  expect "("
  let condition ← expr false fuel
  expect ")"
  if !(← isSign ";") then skipEnds false
  return condition

mutual

def statement : Nat → Reader Statement
  | 0 => refuse
  | fuel + 1 => do
    match ← peek with
    | .sign "\x7b" =>
      let body ← block fuel
      skipEnds false
      return body
    | .sign ";" =>
      advance
      skipEnds false
      return .block []
    | .sign "\x7d" => return .block []
    | .keyword "if" =>
      advance
      let condition ← bracketed fuel
      let body ← statement fuel
      if ← isKeyword "else" then
        advance
        skipEnds false
        return .branch condition body (← statement fuel)
      else return .branch condition body (.block [])
    | .keyword "while" =>
      advance
      let condition ← bracketed fuel
      return .whileLoop condition (← loopBody fuel)
    | .keyword "do" =>
      advance
      skipEnds false
      let body ← loopBody fuel
      if !(← isKeyword "while") then refuse
      advance
      expect "("
      let condition ← expr false fuel
      expect ")"
      statementEnd
      return .doLoop body condition
    | .keyword "for" =>
      advance
      expect "("
      match ← keyLoopHead? with
      | some (n, table) =>
        skipEnds false
        return .keyLoop n table (← loopBody fuel)
      | none =>
        let first? ← perhapsExpr fuel
        expect ";"
        skipEnds false
        let condition? ← perhapsExpr fuel
        expect ";"
        skipEnds false
        let step? ← perhapsExpr fuel
        expect ")"
        skipEnds false
        return .forLoop first? condition? step? (← loopBody fuel)
    | _ =>
      let s ← plain fuel
      statementEnd
      return s
termination_by structural fuel => fuel

def loopBody : Nat → Reader Statement
  | 0 => refuse
  | fuel + 1 => do
    modify fun s => { s with loops := s.loops + 1 }
    let body ← statement fuel
    modify fun s => { s with loops := s.loops - 1 }
    return body
termination_by structural fuel => fuel

def statements : Nat → Reader (List Statement)
  | 0 => refuse
  | fuel + 1 => do
    if ← isSign "\x7d" then
      advance
      return []
    else
      let first ← statement fuel
      return first :: (← statements fuel)
termination_by structural fuel => fuel

def block : Nat → Reader Statement
  | 0 => refuse
  | fuel + 1 => do
    expect "\x7b"
    skipEnds false
    return .block (← statements fuel)
termination_by structural fuel => fuel

end

def parameters : Nat → Reader (List String)
  | 0 => refuse
  | fuel + 1 => do
    if ← isSign ")" then
      advance
      return []
    else
      let first ← name
      if ← isSign "," then
        advance
        skipEnds false
      else if !(← isSign ")") then refuse
      return first :: (← parameters fuel)

/-- Read all rules and functions. `fuel` bounds their number. -/
def items (depth : Nat) : Nat → Reader Script
  | 0 => refuse
  | fuel + 1 => do
    skipEnds true
    modify fun s => { s with atEdge := false, inFunction := false, loops := 0 }
    let rule (selector : Selector) (body : Statement) : Reader Script := do
      let more ← items depth fuel
      return { more with rules := #[⟨selector, body⟩] ++ more.rules }
    let edge (selector : Selector) : Reader Script := do
      advance
      modify fun s => { s with atEdge := true }
      let body ← block depth
      rule selector body
    let function : Reader Script := do
      advance
      let n ← name
      expect "("
      let names ← parameters depth
      skipEnds false
      modify fun s => { s with inFunction := true }
      let body ← block depth
      let more ← items depth fuel
      return { more with functions := (n, ⟨names, body⟩) :: more.functions }
    match ← peek with
    | .textEnd => return ⟨#[], []⟩
    | .keyword "BEGIN" => edge .before
    | .keyword "END" => edge .behind
    | .keyword "function" => function
    | .keyword "func" => function
    | .sign "\x7b" =>
      let body ← block depth
      rule .every body
    | _ =>
      let first ← expr false depth
      let selector ← if ← isSign "," then do
          advance
          skipEnds false
          pure (Selector.range first (← expr false depth))
        else pure (Selector.when first)
      if ← isSign "\x7b" then
        let body ← block depth
        rule selector body
      else
        let ends : Bool := match ← peek with
          | .lineEnd => true
          | .sign s => s = ";"
          | _ => false
        if !ends then refuse
        rule selector (.print [] .output)

end Reader

def definedNames : List Token → List String
  | .keyword word :: .name n called :: rest =>
    if word = "function" || word = "func" then n :: definedNames rest
    else definedNames (.name n called :: rest)
  | _ :: rest => definedNames rest
  | [] => []

/-- The words without those that close what is not open, and those. `braces` counts the braces that
are open. -/
def withoutExtra : Nat → List Placed → List Placed × List Placed
  | _, [] => ([], [])
  | braces, w :: rest =>
    let sign := match w.token with
      | .sign s => s
      | _ => ""
    let isExtra := (sign = ")" && w.depth = 0) || (sign = "\x7d" && braces = 0)
    let after := if sign = "\x7b" then braces + 1 else if sign = "\x7d" then braces - 1 else braces
    let (kept, extra) := withoutExtra after rest
    if isExtra then (kept, w :: extra) else (w :: kept, extra)

def Script.read (text : Octets) : Except (List ScriptError) Script := do
  let (words, extra) := withoutExtra 0 (← (tokens text).mapError ([·]))
  let surplus := extra.flatMap fun w =>
    [⟨"line " ++ toString w.line ++ ": extra '" ++ w.written ++ "'"⟩,
      ⟨"line " ++ toString w.line ++ ": syntax error at or near end of line"⟩]
  if !surplus.isEmpty then throw surplus
  let lastLine := (words.getLast?.map (·.line)).getD 0 + 1
  let fuel := 30 * words.length + 100
  let count (sign : String) : Nat := (words.filter fun w =>
    match w.token with
    | .sign s => s = sign
    | _ => false).length
  let closed := count "\x7d"
  let opened := count "\x7b"
  let unclosed : ScriptError :=
    ⟨"line " ++ toString lastLine ++ ": missing \x7d near end of file"⟩
  match (Reader.items fuel fuel).run
      { rest := words, lastLine := lastLine, defined := definedNames (words.map (·.token)) } with
  | .error e =>
    if opened > closed && e.text ≠ unclosed.text then throw [e, unclosed] else throw [e]
  | .ok (script, s) =>
    let wrong := s.called.reverse.filterMap fun (n, line, count) =>
      match script.functions.lookup n with
      | none => some ⟨"line " ++ toString lastLine ++ ": function " ++ n ++ " never defined"⟩
      | some f =>
        if count > f.parameters.length then
          some ⟨"line " ++ toString line ++ ": too many arguments in call to " ++ n⟩
        else none
    if wrong.isEmpty then return script else throw wrong

end Launchpad.Machine.Programs.Records
