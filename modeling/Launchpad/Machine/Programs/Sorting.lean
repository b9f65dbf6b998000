import Launchpad.Machine.Programs.Order

/-!
Programs that put lines in order, and those that need lines in order: one line for equal ones, what
two files have in common, and the pairs of lines with an equal field.
-/

namespace Launchpad.Machine.Programs

def orderLetters : List Char := "bdfghiMnRrV".toList

/-- Read a position of a key: a field, perhaps a character, and letters. -/
def readPosition (whole : Octets) (atStart : Bool) (cs : List Char) :
    Tool (Nat × Nat × List Char × List Char) := do
  let wrong {α : Type} (why : Octets) (text : List Char) : Tool α :=
    Tool.fail 2 (why ++ ": invalid count at start of " ++ Quoting.plain (String.ofList text))
  let bad {α : Type} (why : Octets) : Tool α :=
    Tool.fail 2 (why ++ ": invalid field specification " ++ Quoting.plain whole)
  match natural? (cs.takeWhile Char.isDigit) with
  | none => wrong (if atStart then "invalid number at field start"
      else "invalid number after ','") cs
  | some 0 => bad "field number is zero"
  | some field =>
    let (offset, rest) ← match cs.dropWhile Char.isDigit with
      | '.' :: rest =>
        match natural? (rest.takeWhile Char.isDigit) with
        | some n =>
          if n = 0 && atStart then bad "character offset is zero"
          else pure (n, rest.dropWhile Char.isDigit)
        | none => wrong "invalid number after '.'" rest
      | rest => pure (if atStart then 1 else 0, rest)
    let letters := rest.takeWhile orderLetters.contains
    return (field - 1, offset, letters, rest.drop letters.length)

def readKey (text : Octets) : Tool SortKey := do
  let bad {α : Type} (why : Octets) : Tool α :=
    Tool.fail 2 (why ++ ": invalid field specification " ++ Quoting.plain text)
  let (field, offset, letters, rest) ← readPosition text true text.toList
  let start : SortKey :=
    { field := field, offset := offset - 1, skipsStart := letters.contains 'b'
      letters := letters.filter (· ≠ 'b') }
  match rest with
  | [] => return start
  | ',' :: rest =>
    let (field, offset, letters, rest) ← readPosition text false rest
    if rest ≠ [] then bad "stray character in field spec"
    return { start with
      until? := some (field, offset), skipsEnd := letters.contains 'b'
      letters := start.letters ++ letters.filter (· ≠ 'b') }
  | _ => bad "stray character in field spec"

def readAllLines (lineEnd : Char) (paths : List Octets) : Tool (List Octets) := do
  for path in paths do
    if path ≠ "-" then
      match ← Tool.openFile path .reading with
      | .ok _ => pure ()
      | .error number =>
        Tool.fail 2 ("cannot read: " ++ Quoting.beforeColon path ++ ": " ++ number.text)
  let texts ← paths.mapM fun path => do
    match ← Tool.load path with
    | .ok text => return text
    | .error (.closed number) =>
      Tool.fail 2 ("cannot read: " ++ Quoting.beforeColon path ++ ": " ++ number.text)
    | .error (.unread number) =>
      Tool.fail 2 ("read failed: " ++ Quoting.beforeColon path ++ ": " ++ number.text)
  return texts.flatMap fun text =>
    if lineEnd = '\n' then (linesOf text).1
    else
      let parts := text.splitOn (String.ofList [lineEnd])
      if parts.getLast? = some "" then parts.dropLast else parts

/-- Lines of which none is equal to the one in front of it. -/
def withoutRepeats (same : SortLine → SortLine → Bool) : List SortLine → List SortLine
  | [] => []
  | first :: rest =>
    let (kept, _) := rest.foldl (fun (kept, last) line =>
      if same last line then (kept, last) else (line :: kept, line)) ([first], first)
    kept.reverse

/-- Put the lines of files in order. -/
def sort : Program := do
  let g ← Tool.options
    ([.flag 'b' "ignore-leading-blanks", .flag 'd' "dictionary-order", .flag 'f' "ignore-case",
      .flag 'g' "general-numeric-sort", .flag 'h' "human-numeric-sort",
      .flag 'i' "ignore-nonprinting", .flag 'M' "month-sort", .flag 'n' "numeric-sort",
      .flag 'R' "random-sort", .flag 'r' "reverse", .flag 'V' "version-sort",
      .flag 'c', .flag 'C', .named '\x03' "check" .perhaps, .flag 'm' "merge", .flag 's' "stable",
      .flag 'u' "unique", .flag 'z' "zero-terminated", .valued 'k' "key", .valued 'o' "output",
      .valued 't' "field-separator", .valued 'S' "buffer-size",
      .valued 'T' "temporary-directory", .named '\x04' "parallel" .value,
      .named '\x05' "debug"]) 2
  let separator? ← match g.value? 't' with
    | none => pure none
    | some text =>
      match text.toList with
      | [] => Tool.fail 2 "empty tab"
      | [c] => pure (some c)
      | ['\\', '0'] => pure (some '\x00')
      | _ => Tool.fail 2 ("multi-character tab " ++ Quoting.plain text)
  let common := orderLetters.filter g.has
  let keys ← (g.values 'k').mapM readKey
  let keys := keys.map fun k =>
    if k.letters = [] && !k.skipsStart && !k.skipsEnd then
      { k with
        letters := common.filter (· ≠ 'b'), skipsStart := common.contains 'b'
        skipsEnd := common.contains 'b' }
    else k
  let keys := if keys = [] && common.any fun c => c ≠ 'r' then
      [{ letters := common.filter (· ≠ 'b'), skipsStart := common.contains 'b'
         skipsEnd := common.contains 'b' }]
    else keys
  let o : SortOrder :=
    { keys := keys, separator? := separator?, keysOnly := g.has 's' || g.has 'u'
      reversed := g.has 'r' }
  let paths := Tool.inputs g.operands
  let lineEnd := if g.has 'z' then '\x00' else '\n'
  let quiet := g.has 'C' || (g.value? '\x03').any fun text =>
    text = "quiet" || text = "silent"
  if g.has 'c' || g.has 'C' || g.has '\x03' then
    match paths with
    | _ :: extra :: _ =>
      Tool.fail 2 ("extra operand " ++ Quoting.plain extra ++ " not allowed with -" ++
        (if quiet then "C" else "c"))
    | _ =>
      let lines := (← readAllLines lineEnd paths).map o.line
      let wrong? := ((lines.zip (lines.drop 1)).zip (List.range lines.length)).find?
        fun ((a, b), _) =>
          let order := o.compare a b
          order = .gt || (g.has 'u' && order = .eq)
      match wrong? with
      | none => return ()
      | some ((_, line), k) =>
        if !quiet then
          Tool.printError ((← Tool.invocation).name ++ ": " ++ paths.headD "-" ++ ":" ++
            toString (k + 2) ++ ": disorder: " ++ line.text)
        Tool.exit 1
  else
    let lines := (← readAllLines lineEnd paths).map o.line
    let sorted := lines.mergeSort fun a b => o.compare a b ≠ .gt
    let kept := if g.has 'u' then withoutRepeats (fun a b => o.compare a b = .eq) sorted
      else sorted
    let out := String.join (kept.map fun line => line.text ++ String.ofList [lineEnd])
    match g.value? 'o' with
    | none => Tool.print out
    | some path =>
      match ← Tool.writeFile path (Octets.array out) with
      | .ok () => return ()
      | .error number =>
        Tool.fail 2 ("open failed: " ++ Quoting.beforeColon path ++ ": " ++ number.text)

def runsBy (key : Octets → Octets) (lines : List Octets) : List (List Octets) :=
  let runs := lines.foldl (fun (runs : List (Octets × List Octets)) line =>
    let own := key line
    match runs with
    | (last, members) :: before =>
      if last = own then (last, line :: members) :: before else (own, [line]) :: runs
    | [] => [(own, [line])]) []
  runs.reverse.map fun (_, members) => members.reverse

/-- Show one line for neighbours that are equal. -/
def uniq : Program := do
  let i ← Tool.invocation
  let args := i.args.map fun arg =>
    match arg.toList with
    | '-' :: digits@(_ :: _) =>
      if digits.all Char.isDigit then "-f" ++ String.ofList digits else arg
    | _ => arg
  let g ← withReader (fun i => { i with args := args })
    (Tool.options
      [.flag 'c' "count", .flag 'd' "repeated", .flag 'D', .named '\x03' "all-repeated" .perhaps,
        .valued 'f' "skip-fields", .flag 'i' "ignore-case", .valued 's' "skip-chars",
        .flag 'u' "unique", .flag 'z' "zero-terminated", .valued 'w' "check-chars",
        .named '\x04' "group" .perhaps])
  let amount (letter : Char) (what : Octets) : Tool (Option Nat) := do
    match g.value? letter with
    | none => return none
    | some text =>
      match natural? text.toList with
      | some n => return some n
      | none => Tool.fail 1 (text ++ ": invalid number of " ++ what)
  let fields := (← amount 'f' "fields to skip").getD 0
  let skipped := (← amount 's' "bytes to skip").getD 0
  let compared? ← amount 'w' "bytes to compare"
  match g.operands with
  | _ :: _ :: extra :: _ => Tool.failWithHint 1 ("extra operand " ++ Quoting.plain extra)
  | operands =>
    let input := operands.headD "-"
    let key (line : Octets) : Octets :=
      let cs := (dropFields none fields line.toList).drop skipped
      let cs := match compared? with
        | some n => cs.take n
        | none => cs
      String.ofList (if g.has 'i' then cs.map Char.toUpper else cs)
    match ← Tool.load input with
    | .error (.closed number) => Tool.fail 1 (Quoting.beforeColon input ++ ": " ++ number.text)
    | .error (.unread number) =>
      Tool.fail 1 ("error reading " ++ Quoting.plain input ++ ": " ++ number.text)
    | .ok text =>
      let lines := if g.has 'z' then
          let parts := text.splitOn "\x00"
          if parts.getLast? = some "" then parts.dropLast else parts
        else (linesOf text).1
      let runs := runsBy key lines
      let lineEnd : Octets := if g.has 'z' then "\x00" else "\n"
      let all : Bool := g.has 'D' || g.has '\x03'
      let method := (g.value? '\x03').getD ""
      let grouping? := g.value? '\x04'
      let out : Octets :=
        if grouping?.isSome then lineEnd.intercalate (runs.map fun run =>
          String.join (run.map (· ++ lineEnd)))
        else if all then
          let blocks := (runs.filter (·.length > 1)).map fun run =>
            String.join (run.map (· ++ lineEnd))
          if method = "prepend" then String.join (blocks.map (lineEnd ++ ·))
          else if method = "separate" then lineEnd.intercalate blocks
          else String.join blocks
        else
          let shown := runs.filter fun run =>
            (!g.has 'd' || run.length > 1) && (!g.has 'u' || run.length = 1)
          String.join (shown.map fun run =>
            (if g.has 'c' then padLeft 7 (toString run.length) ++ " " else "") ++
              run.headD "" ++ lineEnd)
      match operands with
      | [_, output] =>
        if output = "-" then Tool.print out
        else match ← Tool.writeFile output (Octets.array out) with
          | .ok () => return ()
          | .error number => Tool.fail 1 (Quoting.beforeColon output ++ ": " ++ number.text)
      | _ => Tool.print out

/-- Whether lines are in order, each pair of neighbours. -/
def isOrdered (lines : List Octets) : Bool :=
  (lines.zip (lines.drop 1)).all fun (a, b) => a ≤ b

inductive Side where
  | first
  | second
  | both
  deriving DecidableEq, Repr, Inhabited

/-- Go through two lists of lines in order together. `fuel` bounds the number of lines. -/
def mergeSides : Nat → List Octets → List Octets → List (Side × Octets)
  | 0, _, _ => []
  | fuel + 1, a, b =>
    match a, b with
    | [], [] => []
    | x :: a, [] => (.first, x) :: mergeSides fuel a []
    | [], y :: b => (.second, y) :: mergeSides fuel [] b
    | x :: a, y :: b =>
      if x = y then (.both, x) :: mergeSides fuel a b
      else if x < y then (.first, x) :: mergeSides fuel a (y :: b)
      else (.second, y) :: mergeSides fuel (x :: a) b

def twoOperands (operands : List Octets) : Tool (Octets × Octets) := do
  match operands with
  | [] => Tool.missingOperand
  | [a] => Tool.failWithHint 1 ("missing operand after " ++ Quoting.plain a)
  | [a, b] => return (a, b)
  | _ :: _ :: extra :: _ => Tool.failWithHint 1 ("extra operand " ++ Quoting.plain extra)

/-- Show what two files have in common and what not, in three columns. -/
def comm : Program := do
  let g ← Tool.options
    [.flag '1', .flag '2', .flag '3', .named '\x03' "check-order", .named '\x04' "nocheck-order",
      .named '\x05' "output-delimiter" .value, .named '\x06' "total",
      .flag 'z' "zero-terminated"]
  let (a, b) ← twoOperands g.operands
  let read (path : Octets) : Tool (List Octets) := do
    match ← Tool.load path with
    | .ok text => return (linesOf text).1
    | .error cause => Tool.fail 1 (Quoting.beforeColon path ++ ": " ++ cause.number.text)
  let first ← read a
  let second ← read b
  let separator := (g.value? '\x05').getD "\t"
  let merged := mergeSides (first.length + second.length) first second
  let lead (columns : List Char) : Octets :=
    String.join (columns.map fun c => if g.has c then "" else separator)
  let isHidden : Side → Bool
    | .first => g.has '1'
    | .second => g.has '2'
    | .both => g.has '3'
  let shown := merged.filter fun (side, _) => !isHidden side
  Tool.print (String.join (shown.map fun (side, line) =>
    (match side with
      | .first => ""
      | .second => lead ['1']
      | .both => lead ['1', '2']) ++ line ++ "\n"))
  if g.has '\x06' then
    let count (side : Side) : Octets := toString (merged.filter (·.1 = side)).length
    Tool.print (count .first ++ separator ++ count .second ++ separator ++ count .both ++
      separator ++ "total\n")
  let isOpen := merged.any fun (side, _) => side ≠ .both
  if !g.has '\x04' && (isOpen || g.has '\x03') then
    let mut isWrong := false
    for (lines, name) in [(first, "1"), (second, "2")] do
      if !isOrdered lines then
        Tool.warn ("file " ++ name ++ " is not in sorted order")
        isWrong := true
    if isWrong then
      Tool.warn "input is not in sorted order"
      Tool.mark 1

def fieldsOfLine (separator? : Option Char) (line : Octets) : List Octets :=
  match separator? with
  | some s => line.splitOn (String.ofList [s])
  | none =>
    ((String.ofList (line.toList.map fun c => if c = '\t' then ' ' else c)).splitOn " ").filter
      (· ≠ "")

/-- Show the pairs of lines of two files that have an equal field. -/
def join : Program := do
  let g ← Tool.options
    [.valued 'a', .valued 'e', .flag 'i' "ignore-case", .valued 'j', .valued 'o', .valued 't',
      .valued 'v', .valued '1', .valued '2', .named '\x03' "check-order",
      .named '\x04' "nocheck-order", .named '\x05' "header", .flag 'z' "zero-terminated"]
  let (a, b) ← twoOperands g.operands
  let separator? := (g.value? 't').bind fun text => text.toList.head?
  let number (text : Octets) : Tool Nat := do
    match natural? text.toList with
    | some (n + 1) => return n
    | _ => Tool.fail 1 ("invalid field number: " ++ Quoting.plain text)
  let field (letter : Char) : Tool Nat := do
    match g.last? [letter, 'j'] with
    | some key => number ((g.value? key).getD "1")
    | none => return 0
  let firstField ← field '1'
  let secondField ← field '2'
  let read (path : Octets) : Tool (List (List Octets)) := do
    match ← Tool.load path with
    | .ok text => return (linesOf text).1.map (fieldsOfLine separator?)
    | .error cause => Tool.fail 1 (Quoting.beforeColon path ++ ": " ++ cause.number.text)
  let first ← read a
  let second ← read b
  let key (k : Nat) (fields : List Octets) : Octets :=
    let text := (fields[k]?).getD ""
    if g.has 'i' then String.ofList (text.toList.map Char.toUpper) else text
  let out := String.ofList [separator?.getD ' ']
  let empty := (g.value? 'e').getD ""
  let format? : Option (List Octets) := (g.value? 'o').map fun text =>
    ((String.ofList (text.toList.map fun c => if c = ' ' then ',' else c)).splitOn ",").filter
      (· ≠ "")
  let rest (k : Nat) (line : List Octets) : List Octets :=
    (line.zip (List.range line.length)).filterMap fun (text, j) =>
      if j = k then none else some text
  let row (x? y? : Option (List Octets)) : Octets :=
    let x := x?.getD []
    let y := y?.getD []
    let joined := match x? with
      | some x => (x[firstField]?).getD ""
      | none => (y[secondField]?).getD ""
    let cell (text? : Option Octets) : Octets := match text? with
      | some "" => empty
      | some text => text
      | none => empty
    match format? with
    | some ["auto"] => out.intercalate (joined :: rest firstField x ++ rest secondField y) ++ "\n"
    | some places =>
      out.intercalate (places.map fun place =>
        if place = "0" then joined
        else match place.splitOn "." with
          | ["1", k] => cell (x[k.toNat?.getD 1 - 1]?)
          | ["2", k] => cell (y[k.toNat?.getD 1 - 1]?)
          | _ => "") ++ "\n"
    | none => out.intercalate (joined :: rest firstField x ++ rest secondField y) ++ "\n"
  let alone (file : Octets) : Bool := (g.values 'a').contains file || (g.values 'v').contains file
  let pairs := !g.has 'v'
  let keysOf := (first.map (key firstField), second.map (key secondField))
  let groups := mergeSides (first.length + second.length + 1) keysOf.1.eraseDups keysOf.2.eraseDups
  let header := g.has '\x05'
  let mut text := ""
  let (first, second) ← if header then do
      Tool.print (row first.head? second.head?)
      pure (first.drop 1, second.drop 1)
    else pure (first, second)
  let groups := if header then
      mergeSides (first.length + second.length + 1) (first.map (key firstField)).eraseDups
        (second.map (key secondField)).eraseDups
    else groups
  for (side, own) in groups do
    let xs := first.filter (key firstField · = own)
    let ys := second.filter (key secondField · = own)
    match side with
    | .both =>
      if pairs then
        for x in xs do
          for y in ys do text := text ++ row (some x) (some y)
    | .first => if alone "1" then for x in xs do text := text ++ row (some x) none
    | .second => if alone "2" then for y in ys do text := text ++ row none (some y)
  Tool.print text

/-- Put names in an order in which each pair of the input goes forward. `fuel` bounds the number of
names. -/
def orderedNames (pairs : List (Octets × Octets)) : Nat → List Octets → List Octets × List Octets
  | 0, names => ([], names)
  | fuel + 1, names =>
    let isFree (name : Octets) : Bool :=
      !(pairs.any fun (a, b) => b = name && a ≠ name && names.contains a)
    match names.filter isFree with
    | [] => ([], names)
    | free =>
      let (more, left) := orderedNames pairs fuel (names.filter fun name => !free.contains name)
      (free ++ more, left)

/-- Put the names of pairs in an order that goes with every pair. -/
def tsort : Program := do
  let g ← Tool.options []
  let path := g.operands.headD "-"
  match ← Tool.load path with
  | .error cause => Tool.fail 1 (Quoting.beforeColon path ++ ": " ++ cause.number.text)
  | .ok text =>
    let words := fieldsOfLine none (String.ofList (text.toList.map fun c =>
      if c = '\n' then ' ' else c))
    if words.length % 2 = 1 then
      Tool.fail 1 (path ++ ": input contains an odd number of tokens")
    let evens := (words.zip (List.range words.length)).filterMap fun (w, k) =>
      if k % 2 = 0 then some w else none
    let odds := (words.zip (List.range words.length)).filterMap fun (w, k) =>
      if k % 2 = 1 then some w else none
    let names := words.eraseDups.mergeSort fun a b => a ≤ b
    let (sorted, left) := orderedNames (evens.zip odds) (names.length + 1) names
    Tool.print (unlines sorted)
    if left ≠ [] then
      Tool.warn (path ++ ": input contains a loop:")
      for name in left do Tool.warn name
      Tool.print (unlines left)
      Tool.mark 1

end Launchpad.Machine.Programs
