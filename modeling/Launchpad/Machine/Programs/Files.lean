import Launchpad.Machine.Calendar
import Launchpad.Machine.Permissions
import Launchpad.Machine.Programs.Names

/-!
Programs that make, change and remove files and directories one at a time.
-/

namespace Launchpad.Machine.Programs

def below (directory name : Octets) : Octets :=
  if directory.endsWith "/" then directory ++ name else directory ++ "/" ++ name

/-- What a path names, links followed. -/
def entryOf (path : Octets) : Tool (Except Errno (Location × Entry)) := do
  return ((← Tool.files).status (Octets.path path)).mapError (·.number)

/-- What a path names, a link at its end kept. -/
def ownEntryOf (path : Octets) : Tool (Except Errno (Location × Entry)) := do
  return ((← Tool.files).find (Octets.path path) false).mapError (·.number)

/-- Whether a path names a directory, links followed. -/
def namesDirectory (path : Octets) : Tool Bool := do
  return (← Tool.files).isDirectory (Octets.path path)

def makeMasked (path : Octets) (mode? : Option Nat) : Tool (Except Errno Unit) := do
  let umask := (← Tool.invocation).umask
  let p := Octets.path path
  Tool.change fun files => do
    let made ← files.makeDirectory p
    let mode := mode?.getD (0o777 &&& (0o777 ^^^ umask))
    if mode = directoryMode then .ok made else made.setMode p.withoutSlash mode

def ancestorsOf (path : Octets) : List Octets :=
  let cs := (withoutSlashes path.toList)
  let ends := (List.range cs.length).filter fun k =>
    k > 0 && cs[k]? = some '/' && cs[k - 1]? ≠ some '/'
  ends.map fun k => String.ofList (cs.take k)

def readMode (status : Nat) (hints : Bool) (text : Octets) : Tool (Bool → Nat → Nat) := do
  let umask := (← Tool.invocation).umask
  match Permissions.change? umask false text 0 with
  | some _ => return fun isDirectory mode =>
      (Permissions.change? umask isDirectory text mode).getD mode
  | none =>
    if hints then Tool.failWithHint status ("invalid mode: " ++ Quoting.plain text)
    else Tool.fail status ("invalid mode " ++ Quoting.plain text)

def mkdir : Program := do
  let g ← Tool.options
    [.flag 'p' "parents", .valued 'm' "mode", .flag 'v' "verbose", .flag 'Z',
      .named '\x03' "context" .perhaps]
  if g.operands = [] then Tool.missingOperand
  let mode? ← match g.value? 'm' with
    | none => pure none
    | some text => pure (some ((← readMode 1 false text) true 0o777))
  let told (path : Octets) : Tool Unit := do
    if g.has 'v' then
      Tool.print ((← Tool.invocation).name ++ ": created directory " ++ Quoting.always path ++ "\n")
  let wrong (path : Octets) (number : Errno) : Tool Unit :=
    Tool.complain 1 ("cannot create directory " ++ Quoting.plain path ++ ": " ++ number.text)
  for path in g.operands do
    let blocked? ← if !g.has 'p' then pure none else
      (ancestorsOf path).foldlM (fun (blocked? : Option (Octets × Errno)) step => do
        if blocked?.isSome then return blocked?
        else match ← makeMasked step none with
          | .ok () =>
            told step
            return none
          | .error number =>
            if ← namesDirectory step then return none
            else return some (step, if number = .alreadyExists then .notDirectory else number))
        none
    match blocked? with
    | some (step, number) => wrong step number
    | none =>
      match ← makeMasked path mode? with
      | .ok () => told path
      | .error number =>
        if !(g.has 'p' && (← namesDirectory path)) then wrong path number

def rmdir : Program := do
  let g ← Tool.options
    [.flag 'p' "parents", .flag 'v' "verbose", .named '\x03' "ignore-fail-on-non-empty"]
  if g.operands = [] then Tool.missingOperand
  for path in g.operands do
    let steps := if g.has 'p' then path :: (ancestorsOf path).reverse else [path]
    let mut goesOn := true
    for step in steps do
      if goesOn then
        if g.has 'v' then
          Tool.print ((← Tool.invocation).name ++ ": removing directory, " ++ Quoting.always step ++
            "\n")
        match ← Tool.change (·.removeDirectory (Octets.path step)) with
        | .ok () => pure ()
        | .error number =>
          goesOn := false
          if !(number = .notEmpty && g.has '\x03') then
            Tool.complain 1 ("failed to remove " ++
              (if step = path then "" else "directory ") ++ Quoting.always step ++ ": " ++
              number.text)

structure Removal where
  recursive : Bool
  directories : Bool
  forced : Bool
  told : Bool

/-- Remove what a path names, with everything below it if asked to. The answer tells whether it is
gone. `fuel` bounds the depth. -/
def removePath (r : Removal) : Nat → Octets → Tool Bool
  | 0, _ => return false
  | fuel + 1, path => do
    let cannot (number : Errno) : Tool Bool := do
      Tool.complain 1 ("cannot remove " ++ Quoting.always path ++ ": " ++ number.text)
      return false
    match ← ownEntryOf path with
    | .error number =>
      if r.forced && (number = .noEntry || number = .notDirectory) then return true
      else cannot number
    | .ok (l, e) =>
      if !e.isDirectory then
        match ← Tool.change (·.unlink (Octets.path path)) with
        | .ok () =>
          if r.told then Tool.print ("removed " ++ Quoting.always path ++ "\n")
          return true
        | .error number => cannot number
      else if !r.recursive && !r.directories then cannot .isDirectory
      else
        let names := (← Tool.files).children l
        let isClosed := !e.readable && names ≠ []
        if isClosed then cannot .accessDenied
        else
          let gone ← if !r.recursive then pure true else
            names.foldlM (fun gone name => do
              let own ← removePath r fuel (below path (Octets.ofGlyphs name))
              return gone && own) true
          if !gone then return false
          else match ← Tool.change (·.removeDirectory (Octets.path path)) with
            | .ok () =>
              if r.told then Tool.print ("removed directory " ++ Quoting.always path ++ "\n")
              return true
            | .error number => cannot number

/-- Remove files, and directories if asked to. -/
def rm : Program := do
  let g ← Tool.options
    [.flag 'f' "force", .flag 'i', .flag 'I', .named '\x03' "interactive" .perhaps,
      .flag 'r' "recursive", .flag 'R', .flag 'd' "dir", .flag 'v' "verbose",
      .named '\x04' "one-file-system", .named '\x05' "no-preserve-root",
      .named '\x06' "preserve-root" .perhaps]
  if g.operands = [] && !g.has 'f' then Tool.missingOperand
  let removal : Removal :=
    { recursive := g.has 'r' || g.has 'R', directories := g.has 'd', forced := g.has 'f'
      told := g.has 'v' }
  let asks : Bool := g.last? ['f', 'i'] = some 'i'
  for path in g.operands do
    let last := lastPart path
    if asks then
      match ← ownEntryOf path with
      | .ok (_, e) =>
        let size := match e.node with
          | .file content => content.size
          | _ => 1
        Tool.writeBytes 2 (Octets.array ((← Tool.invocation).name ++ ": remove " ++
          (if e.isDirectory then "directory"
            else if size = 0 then "regular empty file" else "regular file") ++ " " ++
          Quoting.always path ++ "? "))
      | .error number =>
        Tool.complain 1 ("cannot remove " ++ Quoting.always path ++ ": " ++ number.text)
    else if removal.recursive && (last = "." || last = "..") then
      Tool.complain 1 ("refusing to remove '.' or '..' directory: skipping " ++
        Quoting.always path)
    else if removal.recursive && last = "/" && !g.has '\x05' then
      Tool.warn "it is dangerous to operate recursively on '/'"
      Tool.complain 1 "use --no-preserve-root to override this failsafe"
    else
      let depth := (← Tool.files).entries.length
      let _ ← removePath removal (depth + 2) path

def unlink : Program := do
  let g ← Tool.options []
  match g.operands with
  | [] => Tool.missingOperand
  | [path] =>
    match ← Tool.change (·.unlink (Octets.path path)) with
    | .ok () => return ()
    | .error number =>
      Tool.fail 1 ("cannot unlink " ++ Quoting.always path ++ ": " ++ number.text)
  | _ :: extra :: _ => Tool.failWithHint 1 ("extra operand " ++ Quoting.plain extra)

/-- Give a file a second name. -/
def link : Program := do
  let g ← Tool.options []
  match g.operands with
  | [] => Tool.missingOperand
  | [path] => Tool.failWithHint 1 ("missing operand after " ++ Quoting.plain path)
  | [source, path] =>
    match ← Tool.change (·.shareEntry (Octets.path source) (Octets.path path)) with
    | .ok () => return ()
    | .error number =>
      Tool.fail 1 ("cannot create link " ++ Quoting.always path ++ " to " ++
        Quoting.always source ++ ": " ++ number.text)
  | _ :: _ :: extra :: _ => Tool.failWithHint 1 ("extra operand " ++ Quoting.plain extra)

/-- A moment by digits: month, day, hour and minute, perhaps with a year in front and seconds
behind. -/
def readStamp? (now : Timestamp) (text : Octets) : Option Timestamp := do
  let cs := text.toList
  let whole := cs.takeWhile (· ≠ '.')
  let seconds ← match cs.drop whole.length with
    | [] => some 0
    | _ :: digits => if digits.length = 2 then natural? digits else none
  let _ ← natural? whole
  let number (start count : Nat) : Nat := (natural? ((whole.drop start).take count)).getD 0
  let (year, rest) ← match whole.length with
    | 8 => some ((CivilTime.ofTimestamp now).year, 0)
    | 10 => some (((if number 0 2 < 69 then 2000 else 1900) + number 0 2 : Nat), 2)
    | 12 => some ((number 0 4 : Nat), 4)
    | _ => none
  let t : CivilTime :=
    { year := year, month := number rest 2, day := number (rest + 2) 2
      hour := number (rest + 4) 2, minute := number (rest + 6) 2, second := seconds }
  if 1 ≤ t.month && t.month ≤ 12 && 1 ≤ t.day && t.day ≤ CivilTime.daysIn t.year t.month &&
      t.hour < 24 && t.minute < 60 && t.second ≤ 60 then some t.timestamp
  else none

/-- Set the time of the last change of files, which are made if they are missing. -/
def touch : Program := do
  let g ← Tool.options
    [.flag 'a', .flag 'c' "no-create", .valued 'd' "date", .flag 'f', .flag 'h' "no-dereference",
      .flag 'm', .valued 'r' "reference", .valued 't', .named '\x03' "time" .value]
  let now := (← Tool.files).now
  let moment? ← match g.last? ['d', 't', 'r'] with
    | some 'd' =>
      let text := (g.value? 'd').getD ""
      match readMoment? now text with
      | some moment => pure (some moment)
      | none => Tool.fail 1 ("invalid date format " ++ Quoting.plain text)
    | some 't' =>
      let text := (g.value? 't').getD ""
      match readStamp? now text with
      | some moment => pure (some moment)
      | none => Tool.fail 1 ("invalid date format " ++ Quoting.plain text)
    | some _ =>
      let path := (g.value? 'r').getD ""
      match ← entryOf path with
      | .ok (_, e) => pure (some e.modified)
      | .error number =>
        Tool.fail 1 ("failed to get attributes of " ++ Quoting.always path ++ ": " ++ number.text)
    | none => pure none
  if g.operands = [] then Tool.failWithHint 1 "missing file operand"
  let keeps := g.has 'a' && !g.has 'm' || g.value? '\x03' = some "access" ||
    g.value? '\x03' = some "atime"
  for path in g.operands do
    let p := Octets.path path
    let cannot (number : Errno) : Tool Unit :=
      Tool.complain 1 ("cannot touch " ++ Quoting.always path ++ ": " ++ number.text)
    match ← entryOf path with
    | .ok _ =>
      if !keeps then
        match ← Tool.change fun files => (files.setModified p (moment?.getD files.now)).map
            FileSystem.tick with
        | .ok () => pure ()
        | .error number => cannot number
    | .error number =>
      if number = .noEntry && g.has 'c' then pure ()
      else match ← Tool.openFile path { writes := true, creates := true } with
        | .error number => if g.has 'c' then pure () else cannot number
        | .ok _ =>
          match moment? with
          | none => pure ()
          | some moment =>
            match ← Tool.change (·.setModified p moment) with
            | .ok () => pure ()
            | .error number => cannot number

/-- Whether an argument holds permissions although it begins with a dash. -/
def isNegativeMode (arg : Octets) : Bool :=
  match arg.toList with
  | '-' :: c :: rest => (c :: rest).all fun d => "rwxXstugo,=+-01234567".toList.contains d
  | _ => false

/-- Change the permissions of what a path names, and of everything below it if asked to. -/
def changeMode (recursive told quiet : Bool) (f : Bool → Nat → Nat) : Nat → Octets → Tool Unit
  | 0, _ => return ()
  | fuel + 1, path => do
    match ← entryOf path with
    | .error number =>
      if !quiet then
        match ← ownEntryOf path with
        | .ok _ => Tool.warn ("cannot operate on dangling symlink " ++ Quoting.always path)
        | .error _ => Tool.warn ("cannot access " ++ Quoting.always path ++ ": " ++ number.text)
      Tool.mark 1
    | .ok (l, e) =>
      let mode := f e.isDirectory e.mode
      let isOwn := !(Octets.ofPath (l.toPath)).startsWith "/usr" && l.length > 1
      if !isOwn then
        Tool.complain 1 ("changing permissions of " ++ Quoting.always path ++ ": " ++
          Errno.notPermitted.text)
      else
        let _ ← Tool.change (·.setMode (Octets.path path) mode)
        if told then
          let shown (mode : Nat) : Octets :=
            Permissions.digits mode ++ " (" ++ Permissions.long mode ++ ")"
          Tool.print ("mode of " ++ Quoting.always path ++
            (if mode = e.mode then " retained as " ++ shown mode
              else " changed from " ++ shown e.mode ++ " to " ++ shown mode) ++ "\n")
        if recursive && e.isDirectory then
          for name in (← Tool.files).children l do
            let inner := below path (Octets.ofGlyphs name)
            match ← ownEntryOf inner with
            | .ok (_, { node := .link _, .. }) => pure ()
            | _ => changeMode recursive told quiet f fuel inner

def chmod : Program := do
  let i ← Tool.invocation
  let modes := i.args.takeWhile (· ≠ "--") |>.filter isNegativeMode
  let args := match modes with
    | [] => i.args
    | mode :: _ => i.args.filter fun arg => arg ≠ mode
  let g ← withReader (fun i => { i with args := args })
    (Tool.options
      [.flag 'c' "changes", .flag 'f' "silent", .flag 'f' "quiet", .flag 'v' "verbose",
        .flag 'R' "recursive", .named '\x03' "reference" .value,
        .named '\x04' "preserve-root", .named '\x05' "no-preserve-root"])
  let operands := modes.take 1 ++ g.operands
  let apply (f : Bool → Nat → Nat) (paths : List Octets) : Tool Unit := do
    for path in paths do
      let depth := (← Tool.files).entries.length
      changeMode (g.has 'R') (g.has 'v') (g.has 'f') f (depth + 2) path
  match g.value? '\x03', operands with
  | some reference, paths =>
    if paths = [] then Tool.missingOperand
    match ← entryOf reference with
    | .ok (_, e) => apply (fun _ _ => e.mode) paths
    | .error number =>
      Tool.fail 1 ("failed to get attributes of " ++ Quoting.always reference ++ ": " ++
        number.text)
  | none, [] => Tool.missingOperand
  | none, [mode] => Tool.failWithHint 1 ("missing operand after " ++ Quoting.plain mode)
  | none, mode :: paths =>
    let f ← readMode 1 true mode
    apply f paths

/-- Copy the standard input to the standard output and into files. -/
def tee : Program := do
  let g ← Tool.options
    [.flag 'a' "append", .flag 'i' "ignore-interrupts", .flag 'p',
      .named '\x03' "output-error" .perhaps]
  let mut channels : List Nat := []
  for path in g.operands do
    match ← Tool.openFile path (if g.has 'a' then .appending else .writing) with
    | .ok channel => channels := channels ++ [channel]
    | .error number => Tool.complain 1 (Quoting.beforeColon path ++ ": " ++ number.text)
  match ← Tool.readInput with
  | .ok bytes =>
    Tool.writeBytes 1 bytes
    for channel in channels do Tool.alterSession (·.write channel bytes)
  | .error number => Tool.complain 1 ("read error: " ++ number.text)

/-- A new size: a number, perhaps with a sign that relates it to the old size. -/
def newSize? (old : Nat) (text : Octets) : Option Nat :=
  match text.toList with
  | '+' :: rest => (measured? (String.ofList rest)).map (old + ·)
  | '-' :: rest => (measured? (String.ofList rest)).map (old - ·)
  | '<' :: rest => (measured? (String.ofList rest)).map (min old ·)
  | '>' :: rest => (measured? (String.ofList rest)).map (max old ·)
  | '/' :: rest => (measured? (String.ofList rest)).map fun n => old / max n 1 * n
  | '%' :: rest => (measured? (String.ofList rest)).map fun n =>
      (old + max n 1 - 1) / max n 1 * n
  | cs => measured? (String.ofList cs)

def truncate : Program := do
  let g ← Tool.options
    [.flag 'c' "no-create", .flag 'o' "io-blocks", .valued 'r' "reference", .valued 's' "size"]
  let reference? ← match g.value? 'r' with
    | none => pure none
    | some path =>
      match ← entryOf path with
      | .ok (_, { node := .file content, .. }) => pure (some content.size)
      | .ok _ => pure (some 0)
      | .error number =>
        Tool.fail 1 ("cannot stat " ++ Quoting.always path ++ ": " ++ number.text)
  if !g.has 's' && !g.has 'r' then
    Tool.failWithHint 1 ("you must specify either " ++ Quoting.plain "--size" ++ " or " ++
      Quoting.plain "--reference")
  let text := (g.value? 's').getD ""
  if g.has 's' && (newSize? 0 text).isNone then
    Tool.fail 1 ("Invalid number: " ++ Quoting.plain text)
  if g.operands = [] then Tool.failWithHint 1 "missing file operand"
  for path in g.operands do
    let isThere := (← entryOf path).isOk
    if isThere || !g.has 'c' then
      match ← Tool.openFile path { writes := true, creates := true } with
      | .error number =>
        Tool.complain 1 ("cannot open " ++ Quoting.always path ++ " for writing: " ++ number.text)
      | .ok channel =>
        match (← get).session.channels[channel]? with
        | some (.file serial _ _ _ _) =>
          let old := ((← get).session.content serial).size
          let size := match reference? with
            | some n => if g.has 's' then (newSize? n text).getD n else n
            | none => (newSize? old text).getD old
          Tool.alterSession fun s =>
            let content := s.content serial
            let grown := content ++ ⟨Array.replicate (size - content.size) 0⟩
            { s with files := (s.files.alter serial fun e =>
              { e with node := .file (grown.extract 0 size), modified := s.files.now }).tick }
        | _ => pure ()

/-- Wait until everything is written; it always is. -/
def sync : Program := do
  let _ ← Tool.options [.flag 'd' "data", .flag 'f' "file-system"]

end Launchpad.Machine.Programs
