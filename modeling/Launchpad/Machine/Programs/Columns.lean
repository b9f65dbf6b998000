import Launchpad.Machine.Inputs
import Launchpad.Machine.Programs.Echo
import Launchpad.Regex.Matching

/-!
Programs that work on the columns of lines: cutting them out, putting lines beside each other,
breaking lines that are too wide, numbering lines, and turning tabulators into blanks and back.
-/

namespace Launchpad.Machine.Programs

structure Columns where
  first : Nat
  /-- Without a last one, all columns from the first on are meant. -/
  last? : Option Nat
  deriving DecidableEq, Repr, Inhabited

def Columns.holds (r : Columns) (k : Nat) : Bool :=
  r.first ≤ k && (match r.last? with
    | some last => k ≤ last
    | none => true)

def readColumns (ofFields : Bool) (text : Octets) : Tool Columns := do
  let cs := text.toList
  let front := cs.takeWhile (· ≠ '-')
  let behind := cs.dropWhile (· ≠ '-')
  let wrong : Tool Columns :=
    Tool.failWithHint 1 ((if ofFields then "invalid field value "
      else "invalid byte/character position ") ++ Quoting.plain text)
  let zero : Tool Columns :=
    Tool.failWithHint 1 (if ofFields then "fields are numbered from 1"
      else "byte/character positions are numbered from 1")
  match behind with
  | [] =>
    match natural? front with
    | some 0 => zero
    | some n => return ⟨n, some n⟩
    | none => if front = [] then zero else wrong
  | _ :: last =>
    if front = [] && last = [] then Tool.failWithHint 1 "invalid range with no endpoint: -"
    else match (if front = [] then some 1 else natural? front),
        (if last = [] then some none else (natural? last).map some) with
      | some 0, _ => zero
      | some first, some none => return ⟨first, none⟩
      | some first, some (some last) =>
        if last < first then Tool.failWithHint 1 "invalid decreasing range"
        else return ⟨first, some last⟩
      | _, _ => wrong

def complementOf (ranges : List Columns) (count : Nat) : List Columns :=
  ((List.range count).map (· + 1)).filterMap fun k =>
    if ranges.any (·.holds k) then none else some ⟨k, some k⟩

def joinedColumns (ranges : List Columns) : List Columns :=
  let sorted := ranges.mergeSort fun a b => a.first ≤ b.first
  let done := sorted.foldl (fun (done : List Columns) r =>
    match done with
    | last :: before =>
      match last.last? with
      | none => done
      | some stop =>
        if r.first ≤ stop then
          (match r.last? with
            | none => { last with last? := none }
            | some own => { last with last? := some (max stop own) }) :: before
        else r :: done
    | [] => [r]) []
  done.reverse

def cut : Program := do
  let g ← Tool.options
    [.valued 'b' "bytes", .valued 'c' "characters", .valued 'f' "fields", .valued 'd' "delimiter",
      .flag 'n', .flag 's' "only-delimited", .named '\x03' "complement",
      .named '\x04' "output-delimiter" .value, .flag 'z' "zero-terminated"]
  let lists := g.options.filter fun (key, _) => key = 'b' || key = 'c' || key = 'f'
  match lists with
  | [] => Tool.failWithHint 1 "you must specify a list of bytes, characters, or fields"
  | _ :: _ :: _ => Tool.failWithHint 1 "only one list may be specified"
  | [(key, list)] =>
    let ofFields : Bool := key = 'f'
    let delimiter ← match g.value? 'd' with
      | none => pure '\t'
      | some text =>
        match text.toList with
        | [] => pure '\x00'
        | [c] => pure c
        | _ => Tool.failWithHint 1 "the delimiter must be a single character"
    if !ofFields && g.has 'd' then
      Tool.failWithHint 1
        "an input delimiter may be specified only when operating on fields"
    if !ofFields && g.has 's' then
      Tool.failWithHint 1
        "suppressing non-delimited lines makes sense\n\tonly when operating on fields"
    let wanted := (list.toList.map fun c => if c = ' ' || c = '\t' then ',' else c)
    let ranges ← ((String.ofList wanted).splitOn ",").mapM (readColumns ofFields)
    let ranges := joinedColumns ranges
    let shownDelimiter := g.value? '\x04'
    let isTurned := g.has '\x03'
    let lineEnd := if g.has 'z' then '\x00' else '\n'
    let cutBytes (line : List Char) : List Char :=
      let ranges := if isTurned then complementOf ranges line.length else ranges
      let parts := ranges.filterMap fun r =>
        let last := (r.last?.getD line.length)
        let part := (line.take last).drop (r.first - 1)
        if part = [] then none else some part
      match shownDelimiter with
      | some text => text.toList.intercalate parts
      | none => parts.flatten
    let cutFields (line : List Char) : Option (List Char) :=
      let fields := (String.ofList line).splitOn (String.ofList [delimiter])
      if fields.length = 1 then (if g.has 's' then none else some line)
      else
        let chosen := (fields.zip (List.range fields.length)).filter fun (_, k) =>
          ranges.any (·.holds (k + 1)) ≠ isTurned
        some ((shownDelimiter.getD (String.ofList [delimiter])).intercalate
          (chosen.map (·.1))).toList
    for path in Tool.inputs g.operands do
      match ← Tool.loadOrComplain 1 path with
      | none => pure ()
      | some text =>
        let swapped := if lineEnd = '\n' then text else
          String.ofList (text.toList.map fun c =>
            if c = '\x00' then '\n' else if c = '\n' then '\x00' else c)
        let out := (linesOf swapped).1.filterMap fun line =>
          if ofFields then cutFields line.toList else some (cutBytes line.toList)
        let out := String.join (out.map fun cs => String.ofList cs ++ "\n")
        Tool.print (if lineEnd = '\n' then out else
          String.ofList (out.toList.map fun c =>
            if c = '\x00' then '\n' else if c = '\n' then '\x00' else c))

/-- What stands between lines that are put beside each other; the empty text stands for nothing. -/
def readDelimiters : List Char → List Octets
  | [] => []
  | '\\' :: c :: rest =>
    (match c with
      | 'n' => "\n"
      | 't' => "\t"
      | '0' => ""
      | 'b' => "\x08"
      | 'f' => "\x0c"
      | 'r' => "\r"
      | 'v' => "\x0b"
      | c => String.ofList [c]) :: readDelimiters rest
  | c :: rest => String.ofList [c] :: readDelimiters rest

/-- Rows with one line of each text, as long as one of them has lines. `fuel` bounds the number of
rows. -/
def pasteRows (delimiters : List Octets) : Nat → List (List Octets) → List Octets
  | 0, _ => []
  | fuel + 1, columns =>
    if columns.all (·.isEmpty) then []
    else
      let cells := columns.map (·.headD "")
      let row := (cells.zip (List.range cells.length)).foldl (fun row (cell, k) =>
        if k = 0 then cell
        else row ++ ((delimiters[(k - 1) % delimiters.length]?).getD "") ++ cell) ""
      row :: pasteRows delimiters fuel (columns.map (·.drop 1))

/-- Put lines of files beside each other, or all lines of one file into one. -/
def paste : Program := do
  let g ← Tool.options [.valued 'd' "delimiters", .flag 's' "serial", .flag 'z' "zero-terminated"]
  let delimiters := match g.value? 'd' with
    | some text => if text = "" then [""] else readDelimiters text.toList
    | none => ["\t"]
  let paths := Tool.inputs g.operands
  let dashes := (paths.filter (· = "-")).length
  if g.has 's' then
    for path in paths do
      match ← Tool.loadOrComplain 1 path with
      | none => pure ()
      | some text =>
        let lines := (linesOf text).1
        let row := (lines.zip (List.range lines.length)).foldl (fun row (cell, k) =>
          if k = 0 then cell
          else row ++ ((delimiters[(k - 1) % delimiters.length]?).getD "") ++ cell) ""
        Tool.print (row ++ "\n")
  else
    let mut columns : List (List Octets) := []
    let mut shared? : Option (List Octets) := none
    let mut turn := 0
    for path in paths do
      if path = "-" then
        let lines ← match shared? with
          | some lines => pure lines
          | none => pure (linesOf ((← Tool.loadOrComplain 1 path).getD "")).1
        shared? := some lines
        let own := (lines.zip (List.range lines.length)).filterMap fun (line, k) =>
          if k % dashes = turn then some line else none
        columns := columns ++ [own]
        turn := turn + 1
      else
        match ← Tool.load path with
        | .ok text => columns := columns ++ [(linesOf text).1]
        | .error cause => Tool.fail 1 (Quoting.beforeColon path ++ ": " ++ cause.number.text)
    let rows := columns.foldl (fun n c => n + c.length) 0
    Tool.print (unlines (pasteRows delimiters (rows + 1) columns))

def columnBehind (inBytes : Bool) (column : Nat) (c : Char) : Nat :=
  if inBytes then column + 1
  else match c with
    | '\x08' => column - 1
    | '\r' => 0
    | '\t' => column / 8 * 8 + 8
    | _ => column + 1

/-- Break a line so that no part is wider than allowed, at blanks if asked to. `fuel` bounds the
number of characters that are looked at. -/
def foldLine (inBytes atBlanks : Bool) (width : Nat) :
    Nat → List Char → List Char → Nat → List (List Char)
  | 0, current, rest, _ => [current.reverse ++ rest]
  | fuel + 1, current, rest, column =>
    match rest with
    | [] => [current.reverse]
    | c :: behind =>
      let next := columnBehind inBytes column c
      if next ≤ width || current = [] then
        foldLine inBytes atBlanks width fuel (c :: current) behind next
      else
        let kept := current.dropWhile fun d => d ≠ ' ' && d ≠ '\t'
        if atBlanks && kept ≠ [] then
          let moved := (current.takeWhile fun d => d ≠ ' ' && d ≠ '\t').reverse
          let column := moved.foldl (columnBehind inBytes) 0
          kept.reverse :: foldLine inBytes atBlanks width fuel moved.reverse rest column
        else current.reverse :: foldLine inBytes atBlanks width fuel [] rest 0

def fold : Program := do
  let i ← Tool.invocation
  let isOld (arg : Octets) : Bool := match arg.toList with
    | '-' :: digits@(_ :: _) => digits.all Char.isDigit
    | _ => false
  let args := i.args.map fun arg => if isOld arg then "-w" ++ (arg.drop 1).toString else arg
  let g ← withReader (fun i => { i with args := args })
    (Tool.options [.flag 'b' "bytes", .flag 's' "spaces", .valued 'w' "width"])
  let width ← match g.value? 'w' with
    | none => pure 80
    | some text =>
      match natural? text.toList with
      | some 0 => Tool.fail 1 ("invalid number of columns: " ++ Quoting.plain text)
      | some n => pure n
      | none => Tool.fail 1 ("invalid number of columns: " ++ Quoting.plain text)
  for path in Tool.inputs g.operands do
    match ← Tool.loadOrComplain 1 path with
    | none => pure ()
    | some text =>
      let (lines, isOpen) := linesOf text
      Tool.print (unlinesOpen (lines.map fun line =>
        "\n".intercalate ((foldLine (g.has 'b') (g.has 's') width (2 * line.length + 2) []
          line.toList 0).map String.ofList)) isOpen)

def readStops (text : Octets) : Tool (List Nat) :=
  ((String.ofList (text.toList.map fun c => if c = ' ' then ',' else c)).splitOn ",").mapM
    fun part => do
      match natural? part.toList with
      | some 0 => Tool.fail 1 "tab size cannot be 0"
      | some n => return n
      | none => Tool.fail 1 ("tab size contains invalid character(s): " ++ Quoting.plain part)

def nextStop (stops : List Nat) (column : Nat) : Nat :=
  match stops with
  | [] => column / 8 * 8 + 8
  | [n] => column / n * n + n
  | stops => (stops.find? (column < ·)).getD (column + 1)

def expand : Program := do
  let g ← Tool.options [.flag 'i' "initial", .valued 't' "tabs"]
  let stops ← match g.value? 't' with
    | some text => readStops text
    | none => pure []
  for path in Tool.inputs g.operands do
    match ← Tool.loadOrComplain 1 path with
    | none => pure ()
    | some text =>
      let step : List Char × Nat × Bool → Char → List Char × Nat × Bool :=
        fun (out, column, isInside) c =>
          if c = '\n' then ('\n' :: out, 0, false)
          else if c = '\t' && !(g.has 'i' && isInside) then
            let next := nextStop stops column
            (List.replicate (next - column) ' ' ++ out, next, isInside)
          else (c :: out, if c = '\x08' then column - 1 else column + 1,
            isInside || (c ≠ ' ' && c ≠ '\t'))
      let (out, _, _) := text.toList.foldl step ([], 0, false)
      Tool.print (String.ofList out.reverse)

/-- Turn the blanks of a line into tabulators where they reach a stop. `held` are blanks that are
not written yet, last ones first, which began at a column. -/
def unexpandLine (stops : List Nat) (everywhere : Bool) :
    List Char → Nat → List Char → Bool → List Char
  | [], _, held, _ => held.reverse
  | c :: rest, column, held, isInside =>
    if isInside && !everywhere then held.reverse ++ c :: rest
    else if c = ' ' || c = '\t' then
      let stop := nextStop stops column
      let column := if c = '\t' then stop else column + 1
      if column = stop && (c = '\t' || held ≠ []) then
        '\t' :: unexpandLine stops everywhere rest column [] isInside
      else if column = stop then
        unexpandLine stops everywhere rest column [c] isInside
      else unexpandLine stops everywhere rest column (c :: held) isInside
    else held.reverse ++ c :: unexpandLine stops everywhere rest (column + 1) [] true

def unexpand : Program := do
  let g ← Tool.options [.flag 'a' "all", .named '\x03' "first-only", .valued 't' "tabs"]
  let stops ← match g.value? 't' with
    | some text => readStops text
    | none => pure []
  let everywhere := (g.has 'a' || g.has 't') && !g.has '\x03'
  for path in Tool.inputs g.operands do
    match ← Tool.loadOrComplain 1 path with
    | none => pure ()
    | some text =>
      let (lines, isOpen) := linesOf text
      Tool.print (unlinesOpen (lines.map fun line =>
        String.ofList (unexpandLine stops everywhere line.toList 0 [] false)) isOpen)

def numberingStyle (text : Octets) : Tool (Octets → Bool) := do
  match text.toList with
  | ['a'] => return fun _ => true
  | ['t'] => return (· ≠ "")
  | ['n'] => return fun _ => false
  | 'p' :: pattern =>
    match Regex.Pattern.read {} (Octets.glyphs (String.ofList pattern)) with
    | .ok p =>
      return fun line =>
        (Regex.search? ⟨(Octets.glyphs line).toArray, false, false, false⟩ p 0).isSome
    | .error why => Tool.fail 1 why.message
  | _ =>
    Tool.failWithHint 1 ("invalid body numbering style: " ++ Quoting.plain text)

def nl : Program := do
  let g ← Tool.options
    [.valued 'b' "body-numbering", .valued 'h' "header-numbering", .valued 'f' "footer-numbering",
      .valued 'd' "section-delimiter", .valued 'i' "line-increment",
      .valued 'l' "join-blank-lines", .valued 'n' "number-format", .flag 'p' "no-renumber",
      .valued 's' "number-separator", .valued 'v' "starting-line-number",
      .valued 'w' "number-width"]
  let amount (key : Char) (what : Octets) (usual : Nat) : Tool Nat := do
    match g.value? key with
    | none => return usual
    | some text =>
      match natural? text.toList with
      | some n => return n
      | none => Tool.fail 1 ("invalid " ++ what ++ ": " ++ Quoting.plain text)
  let first ← amount 'v' "starting line number" 1
  let increment ← amount 'i' "line number increment" 1
  let width ← amount 'w' "line number field width" 6
  let joined ← amount 'l' "line number of blank lines" 1
  let styles ← [('h', "n"), ('b', "t"), ('f', "n")].mapM fun (key, usual) =>
    numberingStyle ((g.value? key).getD usual)
  let form := (g.value? 'n').getD "rn"
  let separator := (g.value? 's').getD "\t"
  let mark := (g.value? 'd').getD "\\:"
  let mark := if mark.length = 1 then mark ++ ":" else mark
  let label (n : Nat) : Octets := match form with
    | "ln" => padRight width (toString n)
    | "rz" => padLeft width (toString n) '0'
    | _ => padLeft width (toString n)
  let mut number := first
  let mut part := 1
  let mut blanks := 0
  let mut out : List Octets := []
  for path in Tool.inputs g.operands do
    match ← Tool.loadOrComplain 1 path with
    | none => pure ()
    | some text =>
      for line in (linesOf text).1 do
        let marks := [mark ++ mark ++ mark, mark ++ mark, mark]
        match marks.idxOf? line with
        | some k =>
          part := k
          if !g.has 'p' then number := first
          out := "\n" :: out
        | none =>
          let style := (styles[part]?).getD fun _ => false
          blanks := if line = "" then blanks + 1 else 0
          if style line && (line ≠ "" || blanks % (max joined 1) = 0) then
            out := (label number ++ separator ++ line ++ "\n") :: out
            number := number + increment
          else
            let gap := String.ofList (List.replicate (width + separator.length) ' ')
            out := (gap ++ line ++ "\n") :: out
  Tool.print (String.join out.reverse)

end Launchpad.Machine.Programs
