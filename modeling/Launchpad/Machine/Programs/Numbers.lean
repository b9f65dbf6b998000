import Launchpad.Machine.Programs.Format
import Launchpad.Machine.Inputs
import Launchpad.Regex.Matching

/-!
Programs that calculate: sequences of numbers, expressions on arguments, and factors.
-/

namespace Launchpad.Machine.Programs

open Text (Decimal)

/-- A number of a sequence: its value, and how many digits stand behind its point. -/
structure SequenceStep where
  negative : Bool
  numerator : Nat
  denominator : Nat
  places : Nat

def readStep (text : Octets) : Tool SequenceStep := do
  let cs := text.toList
  match Decimal.read? (cs.dropWhile (· = ' ')) with
  | some (.finite negative n d, []) =>
    let behind := (cs.dropWhile (· ≠ '.')).drop 1
    let isPlain := !cs.any fun c => c = 'e' || c = 'E' || c = 'x' || c = 'X' || c = 'p' || c = 'P'
    return ⟨negative, n, d, if isPlain then behind.length else 0⟩
  | some (.undefined _, []) =>
    Tool.failWithHint 1 ("invalid " ++ Quoting.plain "not-a-number" ++ " argument: " ++
      Quoting.plain text)
  | _ => Tool.failWithHint 1 ("invalid floating point argument: " ++ Quoting.plain text)

def SequenceStep.scaled (unit : Nat) (s : SequenceStep) : Int :=
  let size : Int := s.numerator * (unit / s.denominator)
  if s.negative then -size else size

def shownUnits (places unit : Nat) (n : Int) : Octets :=
  (if n < 0 then "-" else "") ++ Text.Decimal.fixed places false n.natAbs unit

def splitFormat? (format : Octets) : Option (Octets × Conversion × Octets) :=
  let cs := format.toList
  let front := cs.takeWhile (· ≠ '%')
  match cs.dropWhile (· ≠ '%') with
  | '%' :: rest =>
    let flags := rest.takeWhile ("-+ #0'".toList.contains ·)
    let rest := rest.drop flags.length
    let width := rest.takeWhile Char.isDigit
    let rest := rest.drop width.length
    let (precision?, rest) := match rest with
      | '.' :: rest => (some ((natural? (rest.takeWhile Char.isDigit)).getD 0),
          rest.dropWhile Char.isDigit)
      | rest => (none, rest)
    match rest with
    | letter :: behind =>
      if "efgEFG".toList.contains letter then
        some (String.ofList front, ⟨flags, (natural? width).getD 0, precision?, letter⟩,
          String.ofList behind)
      else none
    | [] => none
  | _ => none

def sequenceLimit : Nat := 200000

def seq : Program := do
  let i ← Tool.invocation
  let isNumber (arg : Octets) : Bool := match arg.toList with
    | '-' :: c :: _ => c.isDigit || c = '.'
    | _ => false
  let isPlain (arg : Octets) : Bool := !arg.startsWith "-" || arg = "-" || isNumber arg
  let takesValue (arg : Octets) : Bool :=
    ["-s", "-f", "--separator", "--format"].contains arg
  let count := (i.args.foldl (fun (n, state) arg =>
    if state = 2 then (n, 2)
    else if state = 1 then (n + 1, 0)
    else if isPlain arg then (n, 2)
    else (n + 1, if takesValue arg then 1 else 0)) (0, 0)).1
  let g ← withReader (fun i => { i with args := i.args.take count })
    (Tool.options
      [.valued 'f' "format", .valued 's' "separator", .flag 'w' "equal-width"] 1 false)
  let operands := g.operands ++ i.args.drop count
  let steps ← operands.mapM readStep
  let plain (n : Nat) : SequenceStep := ⟨false, n, 1, 0⟩
  match steps with
  | [] => Tool.missingOperand
  | _ :: _ :: _ :: _ :: _ =>
    Tool.failWithHint 1 ("extra operand " ++ Quoting.plain ((operands[3]?).getD ""))
  | steps =>
    let (first, step, last) := match steps with
      | [last] => (plain 1, plain 1, last)
      | [first, last] => (first, plain 1, last)
      | first :: step :: last :: _ => (first, step, last)
      | [] => (plain 1, plain 1, plain 1)
    let unit := [first, step, last].foldl (fun u s => Nat.lcm u s.denominator) 1
    let increment := step.scaled unit
    if increment = 0 then
      Tool.failWithHint 1 ("invalid Zero increment value: " ++
        Quoting.plain ((operands[1]?).getD ""))
    let start := first.scaled unit
    let stop := last.scaled unit
    let distance := if increment > 0 then stop - start else start - stop
    let count := if distance < 0 then 0
      else min (distance.natAbs / increment.natAbs + 1) sequenceLimit
    let places := max first.places step.places
    let values := (List.range count).map fun (k : Nat) => start + increment * (k : Int)
    let separator := (g.value? 's').getD "\n"
    let shown ← match g.value? 'f' with
      | some format =>
        match splitFormat? format with
        | some (front, conversion, behind) =>
          pure (values.map fun n =>
            front ++ conversion.decimal (.finite (n < 0) n.natAbs unit) ++ behind)
        | none =>
          Tool.failWithHint 1 ("format " ++ Quoting.plain format ++ " has no % directive")
      | none =>
        let texts := values.map (shownUnits places unit)
        if g.has 'w' then
          let ends := [shownUnits places unit start, shownUnits places unit stop]
          let width := (ends.map String.length).foldl max 0
          pure (texts.map fun text =>
            if text.startsWith "-" then "-" ++ padLeft (width - 1) (text.drop 1).toString '0'
            else padLeft width text '0')
        else pure texts
    if shown ≠ [] then Tool.print (separator.intercalate shown ++ "\n")

inductive ExpressionError where
  | missing (behind : Octets)
  | unexpected (word : Octets)
  | unclosed (behind : Octets)
  | notClosing (word : Octets)
  | unopened
  | noInteger
  | zeroDivision
  | pattern (why : Regex.PatternError)

def ExpressionError.message : ExpressionError → Octets
  | .missing word => "syntax error: missing argument after " ++ Quoting.plain word
  | .unexpected word => "syntax error: unexpected argument " ++ Quoting.plain word
  | .unclosed word => "syntax error: expecting ')' after " ++ Quoting.plain word
  | .notClosing word => "syntax error: expecting ')' instead of " ++ Quoting.plain word
  | .unopened => "syntax error: unexpected ')'"
  | .noInteger => "non-integer argument"
  | .zeroDivision => "division by zero"
  | .pattern why => why.message

structure Words where
  left : List Octets
  last : Octets := ""

abbrev Expression := StateT Words (Except ExpressionError)

namespace Expression

def integer? (text : Octets) : Option Int :=
  match text.toList with
  | '-' :: digits => (natural? digits).map fun n => -(n : Int)
  | digits => (natural? digits).map fun n => (n : Int)

/-- A value that counts as none: the empty text, or zeros. -/
def isNull (value : Octets) : Bool :=
  let cs := value.toList
  let digits := if cs.head? = some '-' then cs.drop 1 else cs
  value = "" || (digits ≠ [] && digits.all (· = '0'))

def next? (words : List Octets) : Expression (Option Octets) := do
  let s ← get
  match s.left with
  | w :: rest =>
    if words.contains w then
      set { s with left := rest, last := w }
      return some w
    else return none
  | [] => return none

def more : Expression Unit := do
  let s ← get
  if s.left = [] then throw (.missing s.last)

def take : Expression Octets := do
  more
  let s ← get
  let w := s.left.headD ""
  set { s with left := s.left.drop 1, last := w }
  return w

def fit (text pattern : Octets) : Expression Octets := do
  match Regex.Pattern.read {} (Octets.glyphs pattern) with
  | .error why => throw (.pattern why)
  | .ok p =>
    let signs := (Octets.glyphs text).toArray
    let hasGroup := (pattern.splitOn "\\(").length > 1
    match Regex.matchAt? { signs := signs } p 0 with
    | none => return if hasGroup then "" else "0"
    | some m =>
      if hasGroup then
        match m.group? 1 with
        | some (start, stop) => return Octets.ofGlyphs (signs.extract start stop).toList
        | none => return ""
      else return toString m.stop

/-- Two values compare as integers when both are some, and otherwise as texts. -/
def compareValues (a b : Octets) : Ordering :=
  match integer? a, integer? b with
  | some m, some n => compare m n
  | _, _ => compare a b

def calculate (evaluating : Bool) (operator a b : Octets) : Expression Octets := do
  if !evaluating then return "0"
  match integer? a, integer? b with
  | some m, some n =>
    match operator with
    | "+" => return toString (m + n)
    | "-" => return toString (m - n)
    | "*" => return toString (m * n)
    | _ =>
      if n = 0 then throw .zeroDivision
      else return toString (if operator = "/" then Int.tdiv m n else Int.tmod m n)
  | _, _ => throw .noInteger

mutual

/-- The first of two values that is not null. -/
def anyOf (evaluating : Bool) : Nat → Expression Octets
  | 0 => return ""
  | fuel + 1 => do anyRest evaluating (← allOf evaluating fuel) fuel

/-- What stands behind the first value. -/
def anyRest (evaluating : Bool) (left : Octets) : Nat → Expression Octets
  | 0 => return left
  | fuel + 1 => do
    match ← next? ["|"] with
    | none => return left
    | some _ =>
      let right ← allOf (evaluating && isNull left) fuel
      let value := if !isNull left then left else if isNull right then "0" else right
      anyRest evaluating value fuel

/-- The first value if neither is null. -/
def allOf (evaluating : Bool) : Nat → Expression Octets
  | 0 => return ""
  | fuel + 1 => do allRest evaluating (← comparison evaluating fuel) fuel

/-- What stands behind the first value. -/
def allRest (evaluating : Bool) (left : Octets) : Nat → Expression Octets
  | 0 => return left
  | fuel + 1 => do
    match ← next? ["&"] with
    | none => return left
    | some _ =>
      let right ← comparison (evaluating && !isNull left) fuel
      allRest evaluating (if isNull left || isNull right then "0" else left) fuel

/-- Whether two values are in some order: one or zero. -/
def comparison (evaluating : Bool) : Nat → Expression Octets
  | 0 => return ""
  | fuel + 1 => do compareRest evaluating (← sum evaluating fuel) fuel

/-- What stands behind the first value. -/
def compareRest (evaluating : Bool) (left : Octets) : Nat → Expression Octets
  | 0 => return left
  | fuel + 1 => do
    match ← next? ["<", "<=", "=", "==", "!=", ">=", ">"] with
    | none => return left
    | some operator =>
      let right ← sum evaluating fuel
      let order := compareValues left right
      let holds : Bool := match operator with
        | "<" => order = .lt
        | "<=" => order ≠ .gt
        | "!=" => order ≠ .eq
        | ">=" => order ≠ .lt
        | ">" => order = .gt
        | _ => order = .eq
      compareRest evaluating (if holds then "1" else "0") fuel

def sum (evaluating : Bool) : Nat → Expression Octets
  | 0 => return ""
  | fuel + 1 => do sumRest evaluating (← product evaluating fuel) fuel

/-- What stands behind the first value. -/
def sumRest (evaluating : Bool) (left : Octets) : Nat → Expression Octets
  | 0 => return left
  | fuel + 1 => do
    match ← next? ["+", "-"] with
    | none => return left
    | some operator =>
      let right ← product evaluating fuel
      sumRest evaluating (← calculate evaluating operator left right) fuel

def product (evaluating : Bool) : Nat → Expression Octets
  | 0 => return ""
  | fuel + 1 => do productRest evaluating (← matching evaluating fuel) fuel

/-- What stands behind the first value. -/
def productRest (evaluating : Bool) (left : Octets) : Nat → Expression Octets
  | 0 => return left
  | fuel + 1 => do
    match ← next? ["*", "/", "%"] with
    | none => return left
    | some operator =>
      let right ← matching evaluating fuel
      productRest evaluating (← calculate evaluating operator left right) fuel

def matching (evaluating : Bool) : Nat → Expression Octets
  | 0 => return ""
  | fuel + 1 => do matchRest evaluating (← operation evaluating fuel) fuel

/-- What stands behind the first value. -/
def matchRest (evaluating : Bool) (left : Octets) : Nat → Expression Octets
  | 0 => return left
  | fuel + 1 => do
    match ← next? [":"] with
    | none => return left
    | some _ =>
      let right ← operation evaluating fuel
      let value ← if evaluating then fit left right else pure left
      matchRest evaluating value fuel

def operation (evaluating : Bool) : Nat → Expression Octets
  | 0 => return ""
  | fuel + 1 => do
    match ← next? ["+", "length", "match", "index", "substr"] with
    | some "+" => take
    | some "length" =>
      let text ← operation evaluating fuel
      return toString (Octets.glyphs text).length
    | some "match" =>
      let text ← operation evaluating fuel
      let pattern ← operation evaluating fuel
      if evaluating then fit text pattern else return text
    | some "index" =>
      let text := Octets.glyphs (← operation evaluating fuel)
      let signs := Octets.glyphs (← operation evaluating fuel)
      match text.findIdx? signs.contains with
      | some k => return toString (k + 1)
      | none => return "0"
    | some "substr" =>
      let text := Octets.glyphs (← operation evaluating fuel)
      let start ← operation evaluating fuel
      let length ← operation evaluating fuel
      match integer? start, integer? length with
      | some m, some n =>
        if m ≤ 0 || n ≤ 0 then return ""
        else return Octets.ofGlyphs ((text.drop (m.toNat - 1)).take n.toNat)
      | _, _ => return ""
    | _ => operand evaluating fuel

def operand (evaluating : Bool) : Nat → Expression Octets
  | 0 => return ""
  | fuel + 1 => do
    more
    match ← next? ["("] with
    | some _ =>
      let value ← anyOf evaluating fuel
      let s ← get
      match s.left with
      | [] => throw (.unclosed s.last)
      | w :: _ =>
        match ← next? [")"] with
        | some _ => return value
        | none => throw (.notClosing w)
    | none =>
      match ← next? [")"] with
      | some _ => throw .unopened
      | none => take

end

end Expression

/-- Print the value of an expression; a null value makes the status one. -/
def expr : Program := do
  let args ← Tool.args
  match args with
  | ["--version"] => Tool.print ("expr (" ++ Tool.collection ++ "\n")
  | args =>
    let args := if args.head? = some "--" then args.drop 1 else args
    if args = [] then Tool.missingOperand 2
    match (Expression.anyOf true (20 * args.length + 20)).run { left := args } with
    | .error why => Tool.fail 2 why.message
    | .ok (value, s) =>
      match s.left with
      | [] =>
        Tool.print (value ++ "\n")
        Tool.mark (if Expression.isNull value then 1 else 0)
      | word :: _ => Tool.fail 2 (ExpressionError.unexpected word).message

/-- The prime factors of a number from a possible factor on. `fuel` bounds the number of tries. -/
def factorsFrom : Nat → Nat → Nat → List Nat
  | 0, _, n => if n > 1 then [n] else []
  | fuel + 1, p, n =>
    if n ≤ 1 then []
    else if p * p > n then [n]
    else if n % p = 0 then p :: factorsFrom fuel p (n / p)
    else factorsFrom fuel (if p = 2 then 3 else p + 2) n

def factor : Program := do
  let g ← Tool.options [.flag 'h' "exponents"]
  let words ← match g.operands with
    | [] =>
      match ← Tool.readInput with
      | .ok bytes =>
        pure (((String.ofList ((Octets.ofArray bytes).toList.map fun c =>
          if c = '\n' || c = '\t' then ' ' else c)).splitOn " ").filter (· ≠ ""))
      | .error _ => pure []
    | words => pure words
  for word in words do
    match natural? word.toList with
    | some n =>
      Tool.print (toString n ++ ":" ++
        String.join ((factorsFrom 1000000 2 n).map fun p => " " ++ toString p) ++ "\n")
    | none =>
      Tool.complain 1 (Quoting.plain word ++ " is not a valid positive integer")

end Launchpad.Machine.Programs
