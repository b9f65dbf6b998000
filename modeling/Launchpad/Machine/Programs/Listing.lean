import Launchpad.Machine.Programs.Echo
import Launchpad.Machine.Programs.Facts
import Launchpad.Machine.Programs.Files
import Launchpad.Machine.Programs.Order

/-!
Programs that show what files and directories are: their names, kinds, sizes, permissions and times.
-/

namespace Launchpad.Machine.Programs

def sizeOf (e : Entry) : Nat :=
  match e.node with
  | .file content => content.size
  | .directory => 4096
  | .link target => target.bytes.length
  | .device _ => 0

/-- How many blocks of 512 bytes an entry takes. -/
def blocksOf (e : Entry) : Nat :=
  match e.node with
  | .file content => (content.size + 4095) / 4096 * 8
  | .directory => 8
  | _ => 0

def namesOf (files : FileSystem) (l : Location) (e : Entry) : Nat :=
  if e.isDirectory then
    2 + ((files.children l).filter fun name =>
      ((files.entry? (l ++ [name])).map Entry.isDirectory).getD false).length
  else (files.entries.filter fun (_, other) => other.serial = e.serial).length

def kindLetter (e : Entry) : Octets :=
  match e.node with
  | .file _ => "-"
  | .directory => "d"
  | .link _ => "l"
  | .device _ => "c"

def modeText (e : Entry) : Octets := kindLetter e ++ Permissions.long e.mode

def kindText (e : Entry) : Octets :=
  match e.node with
  | .file content => if content.isEmpty then "regular empty file" else "regular file"
  | .directory => "directory"
  | .link _ => "symbolic link"
  | .device _ => "character special file"

structure Listed where
  name : Octets
  location : Location
  entry : Entry
  deriving Inhabited

/-- How entries are listed. -/
structure ListingStyle where
  all : Bool := false
  almostAll : Bool := false
  skipsBackups : Bool := false
  long : Bool := false
  directories : Bool := false
  recursive : Bool := false
  /-- A mark behind each name tells of its kind: for all kinds, or for directories alone. -/
  marks? : Option Bool := none
  numbers : Bool := false
  blocks : Bool := false
  follows : Bool := false
  showsOwner : Bool := true
  showsGroup : Bool := true
  asNumbers : Bool := false
  separator : Octets := "\n"
  timeFormat? : Option Octets := none

def ListingStyle.mark (s : ListingStyle) (e : Entry) : Octets :=
  match s.marks? with
  | none => ""
  | some everything =>
    match e.node with
    | .directory => "/"
    | .link _ => if everything then "@" else ""
    | .file _ => if everything && (e.mode &&& 0o111) ≠ 0 then "*" else ""
    | .device _ => ""

/-- The time of an entry: with the hour if it is recent, otherwise with the year. -/
def ListingStyle.time (s : ListingStyle) (now moment : Timestamp) : Octets :=
  let t := CivilTime.ofTimestamp moment
  match s.timeFormat? with
  | some format => t.format format
  | none =>
    let age := now.seconds - moment.seconds
    if 0 ≤ age && age < 15778476 then t.format "%b %e %H:%M" else t.format "%b %e  %Y"

/-- The lines for entries. In the long form their columns stand below each other. -/
def ListingStyle.lines (s : ListingStyle) (files : FileSystem) (items : List Listed) :
    List Octets :=
  let widest (f : Listed → Octets) : Nat := (items.map fun i => (f i).length).foldl max 0
  let serial (i : Listed) : Octets := toString i.entry.serial
  let blocks (i : Listed) : Octets := toString (blocksOf i.entry / 2)
  let links (i : Listed) : Octets := toString (namesOf files i.location i.entry)
  let size (i : Listed) : Octets := toString (sizeOf i.entry)
  let m := thisMachine
  let owner := if s.asNumbers then toString m.userNumber else m.user
  let group := if s.asNumbers then toString m.groupNumber else m.group
  items.map fun i =>
    let front := (if s.numbers then padLeft (widest serial) (serial i) ++ " " else "") ++
      (if s.blocks then padLeft (widest blocks) (blocks i) ++ " " else "")
    if s.long then
      let target : Octets := match i.entry.node with
        | .link target => " -> " ++ Octets.ofPath target
        | _ => ""
      front ++ modeText i.entry ++ " " ++ padLeft (widest links) (links i) ++ " " ++
        (if s.showsOwner then owner ++ " " else "") ++
        (if s.showsGroup then group ++ " " else "") ++
        padLeft (widest size) (size i) ++ " " ++ s.time files.now i.entry.modified ++ " " ++
        i.name ++ (if target = "" then s.mark i.entry else target)
    else front ++ i.name ++ s.mark i.entry

def orderListed (g : Given) (items : List Listed) : List Listed :=
  let byName (a b : Listed) : Bool :=
    if g.has 'v' then compareVersions a.name.toList b.name.toList ≠ .gt else a.name ≤ b.name
  let sorted := items.mergeSort byName
  let key := match g.last? ['t', 'S', 'U', 'f', 'X', '\x04'] with
    | some '\x04' =>
      match g.value? '\x04' with
      | some "time" => some 't'
      | some "size" => some 'S'
      | some "extension" => some 'X'
      | some "none" => some 'U'
      | _ => none
    | key => key
  let sorted := match key with
    | some 't' => sorted.mergeSort fun a b => b.entry.modified ≤ a.entry.modified
    | some 'S' => sorted.mergeSort fun a b => sizeOf b.entry ≤ sizeOf a.entry
    | some 'X' =>
      let ending (i : Listed) : Octets :=
        match (i.name.splitOn ".").reverse with
        | last :: _ :: _ => last
        | _ => ""
      sorted.mergeSort fun a b => ending a ≤ ending b
    | _ => sorted
  let sorted := if g.has 'r' then sorted.reverse else sorted
  if g.has '\x06' then
    sorted.filter (·.entry.isDirectory) ++ sorted.filter (!·.entry.isDirectory)
  else sorted

/-- List the content of a directory, and of the directories in it if asked to. The answer tells
whether something was listed before. `fuel` bounds the depth. -/
def listDirectory (g : Given) (s : ListingStyle) (titled : Bool) :
    Nat → Bool → Bool → Octets → Location → Entry → Tool Bool
  | 0, isFirst, _, _, _, _ => return isFirst
  | fuel + 1, isFirst, named, path, l, e => do
    if !e.readable then
      Tool.complain (if named then 2 else 1)
        ("cannot open directory " ++ Quoting.always path ++ ": " ++ Errno.accessDenied.text)
      return isFirst
    let files ← Tool.files
    let inner := (files.children l).filterMap fun name =>
      (files.entry? (l ++ [name])).map fun e =>
        ({ name := Octets.ofGlyphs name, location := l ++ [name], entry := e } : Listed)
    let inner := inner.map fun i =>
      if s.follows then
        match files.status (Octets.path (below path i.name)) with
        | .ok (m, e) => { i with location := m, entry := e }
        | .error _ => i
      else i
    let shown := inner.filter fun i =>
      (s.all || s.almostAll || !i.name.startsWith ".") &&
        !(s.skipsBackups && i.name.endsWith "~")
    let dots : List Listed := if s.all then
        [⟨".", l, e⟩, ⟨"..", l.dropLast, (files.entry? l.dropLast).getD e⟩]
      else []
    let items := orderListed g (dots ++ shown)
    if titled || s.recursive then
      Tool.print ((if isFirst then "" else "\n") ++ path ++ ":\n")
    if s.long || s.blocks then
      let total := items.foldl (fun n i => n + blocksOf i.entry) 0
      Tool.print ("total " ++ toString (total / 2) ++ "\n")
    let lines := s.lines files items
    if lines ≠ [] then
      Tool.print (s.separator.intercalate lines ++ (if s.separator = "\x00" then "\x00" else "\n"))
    if s.recursive then
      let _ ← (items.filter fun i =>
          i.entry.isDirectory && i.name ≠ "." && i.name ≠ "..").mapM fun i =>
        listDirectory g s titled fuel false false (below path i.name) i.location i.entry
    return false

/-- The choices of `ls`. -/
def lsChoices : List Choice :=
  Choice.flags "1acdfgGhikLlmnopQqrsStuUvxXABCDFHNRZ" ++
  [.named 'a' "all", .named 'A' "almost-all", .named 'd' "directory", .named 'r' "reverse",
    .named 'R' "recursive", .named 'i' "inode", .named 's' "size", .named 'F' "classify" .perhaps,
    .named 'h' "human-readable", .named 'L' "dereference", .named 'n' "numeric-uid-gid",
    .named 'G' "no-group", .named 'B' "ignore-backups", .named 'Q' "quote-name",
    .named 'N' "literal", .named '\x03' "color" .perhaps, .named '\x04' "sort" .value,
    .named '\x05' "time-style" .value, .named '\x06' "group-directories-first",
    .named '\x07' "full-time", .named '\x08' "zero", .named '\x0b' "file-type",
    .named '\x0c' "indicator-style" .value, .named '\x0e' "format" .value,
    .valued 'I' "ignore", .valued 'w' "width", .valued 'T' "tabsize"]

def ls : Program := do
  let g ← Tool.options lsChoices 2
  let any (keys : List Char) : Bool := keys.any g.has
  let timeFormat? : Option Octets := if g.has '\x07' then some "%Y-%m-%d %H:%M:%S.%N %z" else
    match g.value? '\x05' with
    | some "full-iso" => some "%Y-%m-%d %H:%M:%S.%N %z"
    | some "long-iso" => some "%Y-%m-%d %H:%M"
    | some text => if text.startsWith "+" then some (text.drop 1).toString else none
    | none => none
  let s : ListingStyle :=
    { all := any ['a', 'f'], almostAll := g.has 'A', skipsBackups := g.has 'B'
      long := any ['l', 'g', 'n', 'o', '\x07'] || g.value? '\x0e' = some "long"
      directories := g.has 'd', recursive := g.has 'R'
      marks? := match g.last? ['F', 'p', '\x0b'] with
        | some 'p' => some false
        | some _ => some true
        | none => none
      numbers := g.has 'i', blocks := g.has 's', follows := g.has 'L', showsOwner := !g.has 'g'
      showsGroup := !any ['o', 'G'], asNumbers := g.has 'n'
      separator := if g.has '\x08' then "\x00" else if g.has 'm' then ", " else "\n"
      timeFormat? := timeFormat? }
  let operands := if g.operands = [] then ["."] else g.operands
  let mut plain : List Listed := []
  let mut directories : List Listed := []
  for path in operands do
    let own ← ownEntryOf path
    let followed ← entryOf path
    let keepsLink := s.long || s.directories || (g.has 'F' && !g.has 'H')
    let found : Except Errno (Location × Entry) := match own, followed with
      | .ok (_, { node := .link _, .. }), .ok (m, e) =>
        if s.follows || g.has 'H' || (e.isDirectory && !keepsLink) then .ok (m, e) else own
      | own, _ => own
    match found with
    | .error number =>
      Tool.complain 2 ("cannot access " ++ Quoting.always path ++ ": " ++ number.text)
    | .ok (l, e) =>
      let item : Listed := ⟨path, l, e⟩
      if e.isDirectory && !s.directories then directories := directories ++ [item]
      else plain := plain ++ [item]
  let files ← Tool.files
  let lines := s.lines files (orderListed g plain)
  if lines ≠ [] then
    Tool.print (s.separator.intercalate lines ++ (if s.separator = "\x00" then "\x00" else "\n"))
  let titled := operands.length > 1
  let _ ← (orderListed g directories).foldlM (fun isFirst item =>
    listDirectory g s titled (files.entries.length + 2) isFirst true item.name item.location
      item.entry) (plain = [])

/-- What one letter of a format of `stat` stands for. -/
def statValue (files : FileSystem) (path : Octets) (l : Location) (e : Entry) (c : Char) :
    Option Octets :=
  let m := thisMachine
  let moment := CivilTime.ofTimestamp e.modified
  let time := moment.format "%Y-%m-%d %H:%M:%S.%N %z"
  let kindBits : Nat := match e.node with
    | .file _ => 0o100000
    | .directory => 0o40000
    | .link _ => 0o120000
    | .device _ => 0o20000
  match c with
  | 'n' => some path
  | 'N' => some (Quoting.always path ++ (match e.node with
      | .link target => " -> " ++ Quoting.always (Octets.ofPath target)
      | _ => ""))
  | 's' => some (toString (sizeOf e))
  | 'b' => some (toString (blocksOf e))
  | 'B' => some "512"
  | 'o' => some "4096"
  | 'f' => some (String.ofList (Nat.toDigits 16 (kindBits ||| e.mode)))
  | 'F' => some (kindText e)
  | 'a' => some (String.ofList (Nat.toDigits 8 e.mode))
  | 'A' => some (modeText e)
  | 'h' => some (toString (namesOf files l e))
  | 'i' => some (toString e.serial)
  | 'u' => some (toString m.userNumber)
  | 'U' => some m.user
  | 'g' => some (toString m.groupNumber)
  | 'G' => some m.group
  | 'd' => some "1"
  | 'D' => some "1"
  | 't' => some "0"
  | 'T' => some "0"
  | 'm' => some "/"
  | 'w' => some "-"
  | 'W' => some "0"
  | 'x' => some time
  | 'y' => some time
  | 'z' => some time
  | 'X' => some (toString e.modified.seconds)
  | 'Y' => some (toString e.modified.seconds)
  | 'Z' => some (toString e.modified.seconds)
  | '%' => some "%"
  | _ => none

/-- Fill in a format. `fuel` bounds its length. -/
def fillFormat (value : Char → Option Octets) (escapes : Bool) : Nat → List Char → List Octets
  | 0, _ => []
  | fuel + 1, cs =>
    match cs with
    | [] => []
    | '%' :: rest =>
      let flags := rest.takeWhile fun c => c.isDigit || c = '-' || c = '.' || c = '+' || c = ' '
      match rest.drop flags.length with
      | c :: behind =>
        let left := flags.contains '-'
        let width := (natural? (flags.filter Char.isDigit)).getD 0
        let text := (value c).getD "?"
        let filled := if left then padRight width text
          else padLeft width text (if flags.head? = some '0' then '0' else ' ')
        filled :: fillFormat value escapes fuel behind
      | [] => ["%"]
    | '\\' :: rest =>
      if !escapes then "\\" :: fillFormat value escapes fuel rest
      else
        let (out, behind) := readEscape rest
        String.ofList out :: fillFormat value escapes fuel behind
    | c :: rest => String.ofList [c] :: fillFormat value escapes fuel rest

def stat : Program := do
  let g ← Tool.options
    [.valued 'c' "format", .named '\x03' "printf" .value, .flag 'f' "file-system",
      .flag 'L' "dereference", .flag 't' "terse", .named '\x04' "cached" .value]
  if g.operands = [] then Tool.missingOperand
  for path in g.operands do
    match ← (if g.has 'L' then entryOf path else ownEntryOf path) with
    | .error number =>
      Tool.complain 1 ("cannot statx " ++ Quoting.always path ++ ": " ++ number.text)
    | .ok (l, e) =>
      let files ← Tool.files
      let value := statValue files path l e
      let fill (escapes : Bool) (format : Octets) : Octets :=
        String.join (fillFormat value escapes (format.length + 1) format.toList)
      match g.value? '\x03', g.value? 'c' with
      | some format, _ => Tool.print (fill true format)
      | none, some format => Tool.print (fill false format ++ "\n")
      | none, none =>
        if g.has 't' then
          Tool.print (fill false "%n %s %b %f %u %g %D %i %h %t %T %X %Y %Z %W %o" ++ "\n")
        else
          Tool.print (fill false ("  File: %N\n  Size: %-10s\tBlocks: %-10b IO Block: %-6o %F\n" ++
            "Device: %d\tInode: %-11i Links: %h\nAccess: (%04a/%A)  Uid: (%5u/%8U)   " ++
            "Gid: (%5g/%8G)\nAccess: %x\nModify: %y\nChange: %z\n Birth: %w\n"))

end Launchpad.Machine.Programs
