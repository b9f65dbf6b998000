import Launchpad.Machine.Calendar
import Launchpad.Machine.Inputs
import Launchpad.Machine.Programs.Names
import Launchpad.Machine.Programs.Records.Reading
import Launchpad.Machine.Programs.Records.Value
import Launchpad.Regex.Matching

/-!
What a program for records works on: its variables and tables, the record and its fields, and the
streams that it reads and writes. What goes to a file or to a command is held back until the stream
is closed or a command is started; a command that is written to runs when it is closed.
-/

namespace Launchpad.Machine.Programs.Records

open Regex (Pattern Subject Match)

inductive Cell where
  | value (v : Value)
  | table (number : Nat)
  deriving Inhabited

structure Writer where
  /-- The channel of a file, none for a command. -/
  channel? : Option Nat
  /-- What is held back, last texts first. -/
  held : List Octets := []

/-- The last numbers of a row in which every number is the sum of two earlier ones, oldest first. -/
abbrev RandomRow := List Nat

structure State where
  script : Script
  names : Std.HashMap String Cell := {}
  /-- The parameters of the function that runs. -/
  frame? : Option (Std.HashMap String Cell) := none
  tables : Array Table := #[]
  record : Octets := ""
  fields : Array Value := #[]
  patterns : Std.HashMap Octets Pattern := {}
  /-- Streams that are written to, the one that was used last in front. -/
  writers : List (Octets × Writer) := []
  /-- What is left of streams that are read on request. -/
  readers : List (Octets × List Char) := []
  /-- What is left of the file that is read now. -/
  input? : Option (List Char) := none
  /-- The number of the operand that is looked at next. -/
  operand : Nat := 1
  /-- An operand was a file, or the standard input was read. -/
  sawFile : Bool := false
  /-- The ranges that have begun and not ended, by the number of their rule. -/
  openRanges : List Nat := []
  status : Nat := 0
  seed : Value := .number 0
  random : RandomRow := []

inductive Stop where
  | next
  | nextFile
  | exiting
  | returning (v : Value)
  | breaking
  | continuing
  /-- The program cannot go on. -/
  | failed
  | exhausted
  deriving Inhabited

abbrev Runner := ExceptT Stop (StateT State Tool)

namespace Runner

def tool {α : Type} (t : Tool α) : Runner α := ExceptT.lift (StateT.lift t)

def outcome {α : Type} (r : Runner α) : Runner (Except Stop α) := ExceptT.lift (ExceptT.run r)

def fail {α : Type} (text : Octets) : Runner α := do
  let name := lastPart (← tool Tool.invocation).name
  tool (Tool.printError (name ++ ": " ++ text))
  modify fun s => { s with status := 2 }
  throw .failed

def cell? (name : String) : Runner (Option Cell) := do
  let s ← get
  match s.frame?.bind fun frame => frame[name]? with
  | some cell => return some cell
  | none => return s.names[name]?

def setCell (name : String) (cell : Cell) : Runner Unit :=
  modify fun s =>
    match s.frame? with
    | some frame =>
      if frame.contains name then { s with frame? := some (frame.insert name cell) }
      else { s with names := s.names.insert name cell }
    | none => { s with names := s.names.insert name cell }

def global (name : String) : Runner Value := do
  match (← get).names[name]? with
  | some (.value v) => return v
  | _ => return .unset

def setGlobal (name : String) (v : Value) : Runner Unit :=
  modify fun s => { s with names := s.names.insert name (.value v) }

def text (v : Value) : Runner Octets := do
  match v with
  | .number x =>
    match wholeOf? x with
    | some n => return toString n
    | none =>
      let format ← global "CONVFMT"
      return numberText (format.toText "%.6g") x
  | v => return v.toText ""

def globalText (name : String) : Runner Octets := do text (← global name)

def faultAt {α : Type} (why : Octets) : Runner α := do
  let file ← globalText "FILENAME"
  let inFile ← globalText "FNR"
  let all ← globalText "NR"
  fail ("run time error: " ++ why ++ "\n\tFILENAME=\"" ++ file ++ "\" FNR=" ++ inFile ++ " NR=" ++
    all)

/-- The number of the table that a name stands for; it is made when there is none. -/
def tableNumber (name : String) : Runner Nat := do
  match ← cell? name with
  | some (.table n) => return n
  | _ =>
    let n := (← get).tables.size
    modify fun s => { s with tables := s.tables.push Table.empty }
    setCell name (.table n)
    return n

def tableAt (n : Nat) : Runner Table := return ((← get).tables[n]?).getD default

def setTable (n : Nat) (t : Table) : Runner Unit :=
  modify fun s => { s with tables := s.tables.setIfInBounds n t }

/-- The regular expression that a text spells. -/
def pattern (source : Octets) : Runner Pattern := do
  match (← get).patterns[source]? with
  | some p => return p
  | none =>
    let dialect : Regex.Dialect := { extended := true, rich := false, spells := true }
    match Pattern.read dialect (source.toList.map .char) with
    | .ok p =>
      modify fun s => { s with patterns := s.patterns.insert source p }
      return p
    | .error e =>
      let why := match e with
        | .unclosedGroup => "missing ')'"
        | .unopenedGroup => "missing '('"
        | .unclosedSet => "bad class -- [], [^] or ["
        | _ => "missing operand"
      fail ("line 1: regular expression compile failed (" ++ why ++ ")\n" ++ source)

def subject (text : Octets) : Subject :=
  { signs := (text.toList.map .char).toArray, ignoreCase := false, manyLines := false }

inductive Separator where
  | blanks
  /-- Every character is a part. -/
  | nothing
  | sign (c : Char)
  | pattern (p : Pattern)

def separator (text : Octets) : Runner Separator := do
  match text.toList with
  | [' '] => return .blanks
  | [] => return .nothing
  | [c] => return .sign c
  | _ => return .pattern (← pattern text)

def wordsOf (cs : List Char) : List Octets :=
  let (current, words) := cs.foldr (fun c (current, words) =>
    if isBlank c || c = '\n' then
      (([] : List Char), if current.isEmpty then words else String.ofList current :: words)
    else (c :: current, words)) (([] : List Char), ([] : List Octets))
  if current.isEmpty then words else String.ofList current :: words

def Separator.parts (s : Separator) (text : Octets) : List Octets :=
  if text = "" then []
  else match s with
    | .blanks => wordsOf text.toList
    | .nothing => text.toList.map fun c => String.ofList [c]
    | .sign c => text.splitOn (String.ofList [c])
    | .pattern p =>
      let signs := text.toList.toArray
      let found := (Regex.allMatches (subject text) p).filter fun m => m.stop > m.start
      let (parts, start) := found.foldl (fun ((parts, start) : List Octets × Nat) m =>
        (String.ofList (signs.extract start m.start).toList :: parts, m.stop)) ([], 0)
      (String.ofList (signs.extract start signs.size).toList :: parts).reverse

def setRecord (record : Octets) : Runner Unit := do
  let parts := (← separator (← globalText "FS")).parts record
  modify fun s => { s with
    record := record, fields := (parts.map Value.input).toArray }
  setGlobal "NF" (.ofNat parts.length)

def joinFields : Runner Unit := do
  let between ← globalText "OFS"
  let texts ← (← get).fields.toList.mapM text
  modify fun s => { s with record := between.intercalate texts }

def setFieldCount (n : Nat) : Runner Unit := do
  modify fun s => { s with
    fields := (s.fields.extract 0 n) ++ Array.replicate (n - s.fields.size) (.text "") }
  setGlobal "NF" (.ofNat n)
  joinFields

def fieldNumber (v : Value) : Runner Nat := do
  let n := wordOf v.toNumber
  if n < 0 then faultAt ("negative field index $" ++ toString n)
  else return n.toNat

def fieldAt (n : Nat) : Runner Value := do
  let s ← get
  if n = 0 then return .input s.record else return (s.fields[n - 1]?).getD .unset

def setField (n : Nat) (v : Value) : Runner Unit := do
  if n = 0 then setRecord (← text v)
  else
    if n > (← get).fields.size then setFieldCount n
    modify fun s => { s with fields := s.fields.setIfInBounds (n - 1) v }
    joinFields

def variableOf (name : String) : Runner Value := do
  match ← cell? name with
  | some (.value v) => return v
  | _ => return .unset

def setName (name : String) (v : Value) : Runner Unit := do
  setCell name (.value v)
  if name = "NF" then setFieldCount (wordOf v.toNumber).toNat

def keyOf (values : List Value) : Runner Key := do
  match values with
  | [.number x] =>
    match wholeOf? x with
    | some n => return .number n
    | none => return .text (← text (.number x))
  | [v] => return .text (← text v)
  | values =>
    let texts ← values.mapM text
    return .text ((← globalText "SUBSEP").intercalate texts)

def elementAt (table : String) (k : Key) : Runner Value := do
  let n ← tableNumber table
  let t ← tableAt n
  match t.get? k with
  | some v =>
    setTable n (t.touch k)
    return v
  | none =>
    setTable n (t.put k .unset)
    return .unset

def setElement (table : String) (k : Key) (v : Value) : Runner Unit := do
  let n ← tableNumber table
  setTable n ((← tableAt n).put k v)

inductive Place where
  | name (name : String)
  | element (table : String) (k : Key)
  | field (n : Nat)
  | nowhere

def Place.get : Place → Runner Value
  | .name n => variableOf n
  | .element table k => elementAt table k
  | .field n => fieldAt n
  | .nowhere => return .unset

def Place.put (v : Value) : Place → Runner Unit
  | .name n => setName n v
  | .element table k => setElement table k v
  | .field n => setField n v
  | .nowhere => return ()

/-- How a program that was started came to its end, as a number. -/
def statusOf : Except Errno Ending → Runner Nat
  | .ok (.exited status) => return status
  | .ok (.killed _ signal) => return 256 + signal
  | .ok other => tool (throw other)
  | .error _ => return 127

def runCommand (replaced : Descriptors) (command : Octets) : Runner Nat := do
  let i ← tool Tool.invocation
  statusOf (← tool (Tool.start (replaced ++ i.descriptors) i.environment
    ["/bin/sh", "-c", command]))

/-- Write what is held back, what is meant for commands left out. -/
def flush : Runner Unit := do
  tool Tool.release
  for (_, w) in (← get).writers do
    match w.channel? with
    | some channel =>
      tool (Tool.alterSession (·.write channel (Octets.array (String.join w.held.reverse))))
    | none => pure ()
  modify fun s => { s with
    writers := s.writers.map fun (name, w) =>
      (name, if w.channel?.isSome then { w with held := [] } else w) }

def bufferOf (text : Octets) : Runner Nat := do
  let (channel, session) :=
    (← tool (return (← get).session)).addChannel (.buffer (Octets.array text))
  tool (Tool.alterSession fun _ => session)
  return channel

/-- Write what a stream has held back; a command runs now. -/
def finishWriter (name : Octets) (w : Writer) : Runner Nat := do
  let all := String.join w.held.reverse
  match w.channel? with
  | some channel =>
    tool (Tool.alterSession (·.write channel (Octets.array all)))
    return 0
  | none =>
    let channel ← bufferOf all
    runCommand [(0, channel)] name

/-- Put a text into a stream. It is opened when it is not open. -/
def put (name : Octets) (isCommand append : Bool) (text : Octets) : Runner Unit := do
  let s ← get
  match s.writers.lookup name with
  | some w =>
    let others := s.writers.filter (·.1 ≠ name)
    set { s with writers := (name, { w with held := text :: w.held }) :: others }
  | none =>
    if isCommand then
      flush
      modify fun s => { s with writers := (name, ⟨none, [text]⟩) :: s.writers }
    else
      match ← tool (Tool.openFile name (if append then .appending else .writing)) with
      | .ok channel =>
        modify fun s => { s with writers := (name, ⟨some channel, [text]⟩) :: s.writers }
      | .error number =>
        fail ("cannot open \"" ++ name ++ "\" for output (" ++ number.text ++ ")")

def putFile (append : Bool) (path text : Octets) : Runner Unit := do
  if path = "-" || path = "/dev/stdout" then tool (Tool.print text)
  else if path = "/dev/stderr" then tool (Tool.writeBytes 2 (Octets.array text))
  else put path false append text

def close (name : Octets) : Runner Value := do
  let s ← get
  let isRead := (s.readers.lookup name).isSome
  set { s with
    readers := s.readers.filter (·.1 ≠ name), writers := s.writers.filter (·.1 ≠ name) }
  match s.writers.lookup name with
  | some w => return .ofNat (← finishWriter name w)
  | none => return .number (if isRead then 0 else -1)

def closeAll : Runner Unit := do
  let writers := (← get).writers
  modify fun s => { s with writers := [] }
  for (name, w) in writers do
    let _ ← finishWriter name w

/-- The lines up to an empty one, and what is behind the empty ones that follow. -/
def takeParagraph : List Char → List Char × List Char
  | [] => ([], [])
  | ['\n'] => ([], [])
  | '\n' :: '\n' :: rest => ([], rest.dropWhile (· = '\n'))
  | c :: rest =>
    let (own, rest) := takeParagraph rest
    (c :: own, rest)

/-- The first match from a place on that is not empty. `fuel` bounds the number of places. -/
def firstFilled? (s : Subject) (p : Pattern) : Nat → Nat → Option Match
  | 0, _ => none
  | fuel + 1, start =>
    match Regex.search? s p start with
    | none => none
    | some m => if m.stop > m.start then some m else firstFilled? s p fuel (m.start + 1)

def takeRecord (text : List Char) : Runner (Option (Octets × List Char)) := do
  if text.isEmpty then return none
  let between ← globalText "RS"
  match between.toList with
  | [] =>
    let text := text.dropWhile (· = '\n')
    if text.isEmpty then return none
    let (own, rest) := takeParagraph text
    return some (String.ofList own, rest)
  | [c] =>
    let own := text.takeWhile (· ≠ c)
    return some (String.ofList own, text.drop (own.length + 1))
  | _ =>
    let p ← pattern between
    let whole := String.ofList text
    match firstFilled? (subject whole) p (text.length + 1) 0 with
    | some m => return some (String.ofList (text.take m.start), text.drop m.stop)
    | none => return some (whole, [])

def assignmentIn? (operand : Octets) : Option (String × Octets) :=
  let name := operand.toList.takeWhile fun c => c.isAlphanum || c = '_'
  match operand.toList.drop name.length with
  | '=' :: value =>
    if name.head?.any fun c => c.isAlpha || c = '_' then
      some (String.ofList name, String.ofList value)
    else none
  | _ => none

/-- Set a variable as an operand or an option says. -/
def assignText (name : String) (value : Octets) : Runner Unit :=
  setName name (.input (unescapeText value))

/-- Begin to read a file, the standard input for a dash. -/
def openInput (path : Octets) : Runner Unit := do
  match ← tool (Tool.load path) with
  | .ok text =>
    setGlobal "FNR" (.number 0)
    modify fun s => { s with input? := some text.toList, sawFile := true }
  | .error (.closed number) => fail ("cannot open " ++ path ++ " (" ++ number.text ++ ")")
  | .error (.unread number) => fail ("read error (" ++ number.text ++ ")")

/-- Go on to the next operand that is a file; the answer tells whether there is one. `fuel` bounds
the number of operands. -/
def openNext : Nat → Runner Bool
  | 0 => return false
  | fuel + 1 => do
    let count := (wordOf (← global "ARGC").toNumber).toNat
    let s ← get
    if s.operand ≥ count then
      if s.sawFile then return false
      else
        openInput "-"
        return true
    else
      set { s with operand := s.operand + 1 }
      let t ← tableAt (← tableNumber "ARGV")
      match t.get? (.number s.operand) with
      | none => openNext fuel
      | some v =>
        let operand ← text v
        if operand = "" then openNext fuel
        else match assignmentIn? operand with
          | some (name, value) =>
            assignText name value
            openNext fuel
          | none =>
            setGlobal "FILENAME" (.text operand)
            openInput operand
            return true

/-- The next record of the input. `fuel` bounds the number of files. -/
def nextRecord : Nat → Runner (Option Octets)
  | 0 => return none
  | fuel + 1 => do
    match (← get).input? with
    | none =>
      let count := (wordOf (← global "ARGC").toNumber).toNat
      if ← openNext (count + 1) then nextRecord fuel else return none
    | some rest =>
      match ← takeRecord rest with
      | some (record, rest) =>
        modify fun s => { s with input? := some rest }
        setGlobal "NR" (.number ((← global "NR").toNumber + 1))
        setGlobal "FNR" (.number ((← global "FNR").toNumber + 1))
        return some record
      | none =>
        modify fun s => { s with input? := none }
        nextRecord fuel

def fileLimit : Nat := 100000

/-- The next record of a stream that is read on request, which is opened when it is not open. The
answer is none when the stream cannot be opened, and holds none at its end. -/
def nextFrom (isCommand : Bool) (name : Octets) : Runner (Option (Option Octets)) := do
  let opened : Runner (Option (List Char)) := do
    if isCommand then
      flush
      let channel ← bufferOf ""
      let _ ← runCommand [(1, channel)] name
      let session ← tool (return (← get).session)
      return some (Octets.ofArray (session.available channel)).toList
    else
      match ← tool (Tool.load (if name = "/dev/stdin" then "-" else name)) with
      | .ok text => return some text.toList
      | .error _ => return none
  let rest? ← match (← get).readers.lookup name with
    | some rest => pure (some rest)
    | none => opened
  match rest? with
  | none => return none
  | some rest =>
    let (record?, rest) := match ← takeRecord rest with
      | some (record, rest) => (some record, rest)
      | none => (none, [])
    modify fun s => { s with
      readers := (name, rest) :: s.readers.filter (·.1 ≠ name) }
    return some record?

end Runner

end Launchpad.Machine.Programs.Records
