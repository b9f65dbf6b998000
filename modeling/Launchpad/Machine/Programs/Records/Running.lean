import Launchpad.Machine.Programs.Records.State

/-!
Running programs for records: the values of expressions, the functions of the language, and what
statements do.
-/

namespace Launchpad.Machine.Programs.Records.Runner

open Text (Decimal)

def stepLimit : Nat := 1000000

/-- The remainder of a division that is cut off toward zero. -/
def remainder (x y : Float) : Float :=
  match Decimal.ofFloat x, Decimal.ofFloat y with
  | .finite negative a b, .finite _ c d =>
    if c = 0 then 0.0 / 0.0
    else (Decimal.finite negative ((a * d) % (c * b)) (b * d)).toFloat
  | .finite _ _ _, .infinite _ => x
  | _, _ => 0.0 / 0.0

def calculate : Arith → Float → Float → Float
  | .add, x, y => x + y
  | .subtract, x, y => x - y
  | .multiply, x, y => x * y
  | .divide, x, y => x / y
  | .remainder, x, y => remainder x y
  | .power, x, y => Float.pow x y

/-- A number without what is behind its point. -/
def truncated (x : Float) : Float := if x ≥ 0 then x.floor else x.ceil

/-- How many numbers of a row of random ones the next one looks back on. -/
def randomSpan : Nat := 31

def RandomRow.next (row : RandomRow) : Nat × RandomRow :=
  let new := ((row[0]?).getD 0 + (row[randomSpan - 3]?).getD 0) % 4294967296
  (new / 2, row.drop 1 ++ [new])

def RandomRow.ofSeed (seed : Nat) : RandomRow :=
  let first := if seed = 0 then 1 else seed % 4294967296
  let signed : Int := if first ≥ 2147483648 then (first : Int) - 4294967296 else first
  let (_, row) := (List.range (randomSpan - 1)).foldl (fun ((last, row) : Int × RandomRow) _ =>
    let next := (16807 * last).tmod 2147483647
    let next := if next < 0 then next + 2147483647 else next
    (next, next.toNat :: row)) (signed, [first])
  (List.range 310).foldl (fun row _ => (RandomRow.next row).2) row.reverse

/-- The text that replaces a match. A backslash in front of an ampersand makes it one. `fuel` bounds
the length. -/
def replacementFuel (found : Octets) : Nat → List Char → List Octets
  | 0, _ => []
  | fuel + 1, cs =>
    match cs with
    | [] => []
    | '&' :: rest => found :: replacementFuel found fuel rest
    | '\\' :: _ =>
      let slashes := (cs.takeWhile (· = '\\')).length
      let rest := cs.drop slashes
      match rest with
      | '&' :: more =>
        "".pushn '\\' (slashes / 2) :: (if slashes % 2 = 1 then "&" else found) ::
          replacementFuel found fuel more
      | rest => "".pushn '\\' slashes :: replacementFuel found fuel rest
    | cs =>
      let plain := cs.takeWhile fun c => c ≠ '&' && c ≠ '\\'
      String.ofList plain :: replacementFuel found fuel (cs.drop plain.length)

/-- Replace matches in a text, all or the first; the answer holds their number. -/
def substitute (all : Bool) (p : Regex.Pattern) (replacement text : Octets) : Nat × Octets :=
  let s := subject text
  let signs := text.toList.toArray
  let found := if all then Regex.allMatches s p else (Regex.search? s p 0).toList
  let (pieces, start) := found.foldl (fun ((pieces, start) : List Octets × Nat) m =>
    let own := String.ofList (signs.extract m.start m.stop).toList
    let new := String.join (replacementFuel own (replacement.length + 1) replacement.toList)
    (new :: String.ofList (signs.extract start m.start).toList :: pieces, m.stop)) ([], 0)
  let rest := String.ofList (signs.extract start signs.size).toList
  (found.length, String.join (rest :: pieces).reverse)

/-- A part of a text, by the number of its first character and its length. -/
def part (text : Octets) (first : Float) (length? : Option Float) : Octets :=
  let first := wordOf first
  let length := match length? with
    | some x => wordOf x
    | none => text.length + max 0 (-first) + 1
  let (first, length) := if first < 1 then (1, length + (first - 1)) else (first, length)
  ((text.drop (first.toNat - 1)).take length.toNat).toString

/-- What a format makes of arguments: the text so far, and why there is no more of it. -/
structure Formatted where
  text : List Octets := []
  args : List Value
  /-- The number of the conversion. -/
  number : Nat := 1

/-- Read a count of a conversion: digits, or a star for the next argument. -/
def count (cs : List Char) (args : List Value) : Option (Int × List Char × List Value) :=
  match cs, args with
  | '*' :: rest, v :: args => some (wordOf v.toNumber, rest, args)
  | '*' :: _, [] => none
  | cs, args => some (((natural? (cs.takeWhile Char.isDigit)).getD 0 : Nat),
      cs.dropWhile Char.isDigit, args)

/-- Put arguments into a format. The answer holds why that failed, if it did. `fuel` bounds the
length. -/
def formatFuel (called format : Octets) : Nat → List Char → Formatted →
    Runner (List Octets × Option Octets)
  | 0, _, f => return (f.text.reverse, none)
  | fuel + 1, cs, f => do
    let missing := (f.text.reverse,
      some ("not enough arguments passed to " ++ called ++ "(\"" ++ format ++ "\")"))
    match cs with
    | [] => return (f.text.reverse, none)
    | '%' :: '%' :: rest => formatFuel called format fuel rest { f with text := "%" :: f.text }
    | '%' :: rest =>
      let flags := rest.takeWhile ("-+ #0".toList.contains ·)
      match count (rest.drop flags.length) f.args with
      | none => return missing
      | some (width, rest, args) =>
        let flags := if width < 0 then '-' :: flags else flags
        let precision? : Option (Option Nat × List Char × List Value) := match rest with
          | '.' :: more => (count more args).map fun (n, rest, args) =>
              (if n < 0 then none else some n.toNat, rest, args)
          | rest => some (none, rest, args)
        match precision? with
        | none => return missing
        | some (precision?, rest, args) =>
          let rest := rest.dropWhile ("hlL".toList.contains ·)
          let letter := rest.headD '%'
          let c : Conversion := ⟨flags, width.natAbs, precision?, letter⟩
          if !"diouxXcseEfFgGaA".toList.contains letter then
            return (f.text.reverse, some ("improper conversion(number " ++ toString f.number ++
              ") in " ++ called ++ "(\"" ++ format ++ "\")"))
          else match args with
            | [] => return missing
            | v :: args =>
              let own ← if letter = 's' then pure (c.text (← text v))
                else if letter = 'c' then
                  let shown := match v with
                    | .number x =>
                      String.ofList [Char.ofNat ((wordOf x % 256).toNat)]
                    | v => (v.toText "").toList.head?.elim "\x00" fun c => String.ofList [c]
                  pure (({ c with precision? := none }).text shown)
                else if "diouxX".toList.contains letter then
                  pure (c.integer (wordOf v.toNumber))
                else pure (c.decimal (.ofFloat v.toNumber))
              formatFuel called format fuel (rest.drop 1)
                { text := own :: f.text, args := args, number := f.number + 1 }
    | cs =>
      let plain := cs.takeWhile (· ≠ '%')
      formatFuel called format fuel (cs.drop plain.length)
        { f with text := String.ofList plain :: f.text }

def formatted (called : Octets) (values : List Value) : Runner (List Octets × Option Octets) := do
  let format ← text (values.headD .unset)
  formatFuel called format (format.length + 1) format.toList { args := values.drop 1 }

def momentOf (parts : List Octets) : Value :=
  match parts.map fun p => wordOf (leadingNumber p) with
  | year :: month :: day :: hour :: minute :: second :: _ =>
    let days := CivilTime.daysOf year month.toNat day.toNat
    .number (ofWhole (days * 86400 + hour * 3600 + minute * 60 + second))
  | _ => .number (-1)

def applyBuiltin (name : String) (values : List Value) : Runner Value := do
  let number (i : Nat) : Float := ((values[i]?).getD .unset).toNumber
  let textAt (i : Nat) : Runner Octets := text ((values[i]?).getD .unset)
  match name with
  | "atan2" => return .number (Float.atan2 (number 0) (number 1))
  | "cos" => return .number (number 0).cos
  | "exp" => return .number (number 0).exp
  | "int" => return .number (truncated (number 0))
  | "log" => return .number (number 0).log
  | "sin" => return .number (number 0).sin
  | "sqrt" => return .number (number 0).sqrt
  | "index" =>
    let whole := (← textAt 0).toList
    let sought := (← textAt 1).toList
    let place? := (List.range (whole.length + 1)).find? fun i => sought.isPrefixOf (whole.drop i)
    return .ofNat ((place?.map (· + 1)).getD 0)
  | "substr" =>
    let whole ← textAt 0
    return .text (part whole (number 1) (if values.length > 2 then some (number 2) else none))
  | "tolower" => return .text ((← textAt 0).map fun c => if c.toNat < 128 then c.toLower else c)
  | "toupper" => return .text ((← textAt 0).map fun c => if c.toNat < 128 then c.toUpper else c)
  | "sprintf" =>
    match ← formatted "sprintf" values with
    | (pieces, none) => return .text (String.join pieces)
    | (_, some why) => faultAt why
  | "close" => close (← textAt 0)
  | "fflush" =>
    flush
    return .number 0
  | "system" =>
    flush
    return .ofNat (← runCommand [] (← textAt 0))
  | "rand" =>
    let s ← get
    let (n, row) := RandomRow.next (if s.random.isEmpty then RandomRow.ofSeed 1 else s.random)
    set { s with random := row }
    return .number (ofWhole n / 2147483647)
  | "srand" =>
    let s ← get
    let seed ← match values with
      | [v] => pure v
      | _ => do
        let now := (← tool Tool.files).now
        pure (.number (ofWhole (now.nanoseconds / 1000000000)))
    set { s with
      seed := seed, random := RandomRow.ofSeed ((wordOf seed.toNumber % 4294967296).toNat) }
    return s.seed
  | "systime" =>
    let now := (← tool Tool.files).now
    return .number (ofWhole (now.nanoseconds / 1000000000))
  | "strftime" =>
    let now := (← tool Tool.files).now
    let moment : Timestamp := if values.length > 1 then
        ⟨(wordOf (number 1)).toNat * 1000000000⟩ else now
    let format ← if values.isEmpty then pure "%c" else textAt 0
    return .text ((CivilTime.ofTimestamp moment).format format)
  | "mktime" => return momentOf (wordsOf (← textAt 0).toList)
  | _ => return .unset

mutual

def eval (e : Expr) : Nat → Runner Value
  | 0 => throw .exhausted
  | fuel + 1 => do
    match e with
    | .number x => return .number x
    | .text s => return .text s
    | .pattern source =>
      let p ← pattern source
      return .ofBool (Regex.search? (subject (← get).record) p 0).isSome
    | .name name => variableOf name
    | .element table keys =>
      let k ← keyOf (← evalAll keys fuel)
      elementAt table k
    | .field e =>
      let v ← eval e fuel
      fieldAt (← fieldNumber v)
    | .several _ => return .unset
    | .assign operation? target value =>
      let place ← placeOf target fuel
      let v ← eval value fuel
      let v ← match operation? with
        | none => pure v
        | some operation => pure (.number (calculate operation (← place.get).toNumber v.toNumber))
      place.put v
      return v
    | .choose condition first second =>
      if (← eval condition fuel).isTrue then eval first fuel else eval second fuel
    | .either first second =>
      if (← eval first fuel).isTrue then return .number 1
      else return .ofBool (← eval second fuel).isTrue
    | .both first second =>
      if (← eval first fuel).isTrue then return .ofBool (← eval second fuel).isTrue
      else return .number 0
    | .isKey keys table =>
      let k ← keyOf (← evalAll keys fuel)
      let n ← tableNumber table
      let (isThere, t) := (← tableAt n).find k
      setTable n t
      return .ofBool isThere
    | .fits negated s p =>
      let s ← eval s fuel
      let p ← patternOf p fuel
      let isThere := (Regex.search? (subject (← text s)) p 0).isSome
      return .ofBool (isThere != negated)
    | .compare comparison first second =>
      let a ← eval first fuel
      let b ← eval second fuel
      match a.comparable?, b.comparable? with
      | some x, some y => return .ofBool (comparison.holdsFor x y)
      | _, _ => return .ofBool (comparison.holds (compare (← text a) (← text b)))
    | .concat first second =>
      let a ← eval first fuel
      let a ← text a
      let b ← eval second fuel
      return .text (a ++ (← text b))
    | .arith operation first second =>
      let a ← eval first fuel
      let b ← eval second fuel
      return .number (calculate operation a.toNumber b.toNumber)
    | .not body => return .ofBool !(← eval body fuel).isTrue
    | .negate body => return .number (-(← eval body fuel).toNumber)
    | .plus body => return .number (← eval body fuel).toNumber
    | .step before difference target =>
      let place ← placeOf target fuel
      let x := (← place.get).toNumber
      place.put (.number (x + difference))
      return .number (if before then x else x + difference)
    | .builtin name args => builtin name args fuel
    | .call name args => call name args fuel
    | .getline target? origin => getline target? origin fuel
termination_by structural fuel => fuel

def evalAll (es : List Expr) : Nat → Runner (List Value)
  | 0 => throw .exhausted
  | fuel + 1 => do
    match es with
    | [] => return []
    | e :: rest =>
      let v ← eval e fuel
      return v :: (← evalAll rest fuel)
termination_by structural fuel => fuel

/-- The regular expression that an expression stands for. -/
def patternOf (e : Expr) : Nat → Runner Regex.Pattern
  | 0 => throw .exhausted
  | fuel + 1 => do
    match e with
    | .pattern source => pattern source
    | e => pattern (← text (← eval e fuel))
termination_by structural fuel => fuel

/-- The place that an expression names. An element that is missing is made. -/
def placeOf (target : Expr) : Nat → Runner Place
  | 0 => throw .exhausted
  | fuel + 1 => do
    match target with
    | .name name => return .name name
    | .element table keys =>
      let k ← keyOf (← evalAll keys fuel)
      let _ ← elementAt table k
      return .element table k
    | .field e => return .field (← fieldNumber (← eval e fuel))
    | _ => return .nowhere
termination_by structural fuel => fuel

def builtin (name : String) (args : List Expr) : Nat → Runner Value
  | 0 => throw .exhausted
  | fuel + 1 => do
    match name, args with
    | "length", [] => return .ofNat (← get).record.length
    | "length", [.name n] =>
      match ← cell? n with
      | some (.table t) => return .ofNat (← tableAt t).values.size
      | _ => return .ofNat (← text (← variableOf n)).length
    | "length", e :: _ => return .ofNat (← text (← eval e fuel)).length
    | "split", s :: .name table :: rest =>
      let whole ← text (← eval s fuel)
      let between ← match rest with
        | [] => separator (← globalText "FS")
        | .pattern source :: _ => pure (.pattern (← pattern source))
        | e :: _ => separator (← text (← eval e fuel))
      let parts := between.parts whole
      setTable (← tableNumber table) (.ofList (parts.map .input))
      return .ofNat parts.length
    | "match", s :: p :: _ =>
      let s ← text (← eval s fuel)
      let p ← patternOf p fuel
      let (start, length) : Float × Float := match Regex.search? (subject s) p 0 with
        | some m => (ofWhole (m.start + 1), ofWhole (m.stop - m.start : Nat))
        | none => (0, -1)
      setGlobal "RSTART" (.number start)
      setGlobal "RLENGTH" (.number length)
      return .number start
    | "sub", p :: replacement :: rest => substituteIn false p replacement rest fuel
    | "gsub", p :: replacement :: rest => substituteIn true p replacement rest fuel
    | name, args => applyBuiltin name (← evalAll args fuel)
termination_by structural fuel => fuel

/-- Replace matches in what is stored, in the record when nothing else is named. -/
def substituteIn (all : Bool) (p replacement : Expr) (rest : List Expr) : Nat → Runner Value
  | 0 => throw .exhausted
  | fuel + 1 => do
    let p ← patternOf p fuel
    let replacement ← text (← eval replacement fuel)
    let place ← placeOf (rest.headD (.field (.number 0))) fuel
    let (n, new) := substitute all p replacement (← text (← place.get))
    if n > 0 then place.put (.text new)
    return .ofNat n
termination_by structural fuel => fuel

/-- Call a function of the program. A name that has no value yet is given as a table. -/
def call (name : String) (args : List Expr) : Nat → Runner Value
  | 0 => throw .exhausted
  | fuel + 1 => do
    match (← get).script.functions.lookup name with
    | none => fail ("function " ++ name ++ " never defined")
    | some f =>
      let cells ← argumentCells args fuel
      let cells := cells ++
        List.replicate (f.parameters.length - cells.length) (Cell.value .unset)
      let around := (← get).frame?
      let frame := (f.parameters.zip cells).foldl (fun frame (n, cell) => frame.insert n cell)
        (∅ : Std.HashMap String Cell)
      modify fun s => { s with frame? := some frame }
      let result ← outcome (perform f.body fuel)
      modify fun s => { s with frame? := around }
      match result with
      | .ok () => return .unset
      | .error (.returning v) => return v
      | .error other => throw other
termination_by structural fuel => fuel

def argumentCells (args : List Expr) : Nat → Runner (List Cell)
  | 0 => throw .exhausted
  | fuel + 1 => do
    match args with
    | [] => return []
    | e :: rest =>
      let cell ← match e with
        | .name n =>
          match ← cell? n with
          | some (.value .unset) => pure (.table (← tableNumber n))
          | some cell => pure cell
          | none => pure (.table (← tableNumber n))
        | e => pure (.value (← eval e fuel))
      return cell :: (← argumentCells rest fuel)
termination_by structural fuel => fuel

def getline (target? : Option Expr) (origin : Origin) : Nat → Runner Value
  | 0 => throw .exhausted
  | fuel + 1 => do
    let record? ← match origin with
      | .input => pure (some (← nextRecord fileLimit))
      | .file path => nextFrom false (← text (← eval path fuel))
      | .command e => nextFrom true (← text (← eval e fuel))
    match record? with
    | none => return .number (-1)
    | some none => return .number 0
    | some (some record) =>
      match target? with
      | none => setRecord record
      | some target => (← placeOf target fuel).put (.input record)
      return .number 1
termination_by structural fuel => fuel

def deliver (destination : Destination) (content : Octets) : Nat → Runner Unit
  | 0 => throw .exhausted
  | fuel + 1 => do
    match destination with
    | .output => tool (Tool.print content)
    | .file append path => putFile append (← text (← eval path fuel)) content
    | .command e => put (← text (← eval e fuel)) true false content
termination_by structural fuel => fuel

def perform (s : Statement) : Nat → Runner Unit
  | 0 => throw .exhausted
  | fuel + 1 => do
    match s with
    | .block items => performAll items fuel
    | .expression e =>
      let _ ← eval e fuel
    | .print items destination =>
      let shown (v : Value) : Runner Octets := do
        match v with
        | .number x =>
          match wholeOf? x with
          | some n => return toString n
          | none => return numberText ((← global "OFMT").toText "%.6g") x
        | v => return v.toText ""
      let content ← if items.isEmpty then pure (← get).record else do
        let texts ← (← evalAll items fuel).mapM shown
        pure ((← globalText "OFS").intercalate texts)
      deliver destination (content ++ (← globalText "ORS")) fuel
    | .printFormat items destination =>
      match ← formatted "printf" (← evalAll items fuel) with
      | (pieces, none) => deliver destination (String.join pieces) fuel
      | (pieces, some why) =>
        deliver destination (String.join pieces) fuel
        faultAt why
    | .branch condition body otherwise =>
      if (← eval condition fuel).isTrue then perform body fuel else perform otherwise fuel
    | .whileLoop condition body => loop (some condition) none body fuel
    | .doLoop body condition =>
      if ← runRound body fuel then loop (some condition) none body fuel
    | .forLoop first? condition? step? body =>
      match first? with
      | some e =>
        let _ ← eval e fuel
      | none => pure ()
      loop condition? step? body fuel
    | .keyLoop name table body =>
      let n ← tableNumber table
      let (keys, t) := (← tableAt n).keys
      setTable n t
      loopKeys name keys body fuel
    | .next => throw .next
    | .nextFile => throw .nextFile
    | .exit status? =>
      match status? with
      | some e =>
        let v ← eval e fuel
        modify fun s => { s with status := (wordOf v.toNumber % 256).toNat }
      | none => pure ()
      throw .exiting
    | .returnValue value? =>
      match value? with
      | some e => throw (.returning (← eval e fuel))
      | none => throw (.returning .unset)
    | .breakLoop => throw .breaking
    | .continueLoop => throw .continuing
    | .delete table keys =>
      let n ← tableNumber table
      if keys.isEmpty then setTable n .empty
      else
        let k ← keyOf (← evalAll keys fuel)
        setTable n ((← tableAt n).remove k)
termination_by structural fuel => fuel

def performAll (items : List Statement) : Nat → Runner Unit
  | 0 => throw .exhausted
  | fuel + 1 => do
    match items with
    | [] => return ()
    | s :: rest =>
      perform s fuel
      performAll rest fuel
termination_by structural fuel => fuel

/-- Run the body of a loop once; the answer tells whether the loop goes on. -/
def runRound (body : Statement) : Nat → Runner Bool
  | 0 => throw .exhausted
  | fuel + 1 => do
    match ← outcome (perform body fuel) with
    | .ok () => return true
    | .error .continuing => return true
    | .error .breaking => return false
    | .error other => throw other
termination_by structural fuel => fuel

def loop (condition? step? : Option Expr) (body : Statement) : Nat → Runner Unit
  | 0 => throw .exhausted
  | fuel + 1 => do
    let goesOn ← match condition? with
      | some e => pure (← eval e fuel).isTrue
      | none => pure true
    if goesOn then
      if ← runRound body fuel then
        match step? with
        | some e =>
          let _ ← eval e fuel
        | none => pure ()
        loop condition? step? body fuel
termination_by structural fuel => fuel

def loopKeys (name : String) (keys : List Octets) (body : Statement) : Nat → Runner Unit
  | 0 => throw .exhausted
  | fuel + 1 => do
    match keys with
    | [] => return ()
    | k :: rest =>
      setName name (.text k)
      if ← runRound body fuel then loopKeys name rest body fuel
termination_by structural fuel => fuel

end

def picks (number : Nat) (rule : Rule) : Runner Bool := do
  match rule.selector with
  | .before => return false
  | .behind => return false
  | .every => return true
  | .when e => return (← eval e stepLimit).isTrue
  | .range first last =>
    let isOpen := (← get).openRanges.contains number
    let begins ← if isOpen then pure true else pure (← eval first stepLimit).isTrue
    if !begins then return false
    let ends := (← eval last stepLimit).isTrue
    modify fun s => { s with
      openRanges := if ends then s.openRanges.filter (· ≠ number)
        else if isOpen then s.openRanges else number :: s.openRanges }
    return true

def runEdge (isEdge : Selector → Bool) : Runner Unit := do
  for rule in (← get).script.rules do
    if isEdge rule.selector then perform rule.body stepLimit

def runRules : Runner Unit := do
  let rules := (← get).script.rules
  for number in List.range rules.size do
    let rule := rules[number]?.getD default
    if ← picks number rule then perform rule.body stepLimit

/-- Run the rules for all records that are left. `fuel` bounds their number. -/
def runRecords : Nat → Runner Unit
  | 0 => throw .exhausted
  | fuel + 1 => do
    match ← nextRecord fileLimit with
    | none => return ()
    | some record =>
      setRecord record
      match ← outcome runRules with
      | .ok () => runRecords fuel
      | .error .next => runRecords fuel
      | .error .nextFile =>
        modify fun s => { s with input? := none }
        runRecords fuel
      | .error other => throw other

/-- Run a program for its input. What is for behind the last record is also done when the program
ends itself before that. -/
def runScript : Runner Unit := do
  let rules := (← get).script.rules
  let has (f : Selector → Bool) : Bool := rules.any fun rule => f rule.selector
  let isBefore : Selector → Bool
    | .before => true
    | _ => false
  let isBehind : Selector → Bool
    | .behind => true
    | _ => false
  let start : Runner Unit := do
    runEdge isBefore
    if has fun s => !isBefore s then runRecords stepLimit
  match ← outcome start with
  | .ok () => runEdge isBehind
  | .error .exiting => runEdge isBehind
  | .error other => throw other

end Launchpad.Machine.Programs.Records.Runner
