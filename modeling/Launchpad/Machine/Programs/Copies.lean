import Launchpad.Machine.Programs.Files

/-!
Programs that copy, move and link files, and those that copy parts of them.
-/

namespace Launchpad.Machine.Programs

structure Copying where
  recursive : Bool := false
  /-- Links at the end of sources that are named are followed. -/
  followsNamed : Bool := true
  /-- Links inside directories are followed. -/
  followsInner : Bool := false
  keepsMode : Bool := false
  keepsTime : Bool := false
  forced : Bool := false
  /-- What is there stays. -/
  spares : Bool := false
  /-- What is there and not older stays. -/
  updates : Bool := false
  told : Bool := false
  /-- Links are made in place of copies: hard ones or those that hold a path. -/
  links? : Option Bool := none
  /-- The target of a removal before the copy. -/
  removesFirst : Bool := false

def tellCopy (c : Copying) (source target : Octets) : Tool Unit := do
  if c.told then Tool.print (Quoting.always source ++ " -> " ++ Quoting.always target ++ "\n")

def settle (target : Octets) (mode? : Option Nat) (time? : Option Timestamp) : Tool Unit := do
  let p := Octets.path target
  match mode? with
  | some mode => let _ ← Tool.change (·.setMode p mode)
  | none => pure ()
  match time? with
  | some time => let _ ← Tool.change (·.setModified p time)
  | none => pure ()

/-- Copy one file to a path. The answer tells whether that went well. -/
def copyFile (c : Copying) (source target : Octets) (e : Entry) : Tool Bool := do
  let wrong (text : Octets) : Tool Bool := do
    Tool.complain 1 text
    return false
  match ← Tool.openFile source .reading with
  | .error number =>
    wrong ("cannot open " ++ Quoting.always source ++ " for reading: " ++ number.text)
  | .ok channel =>
    match ← Tool.drain channel with
    | .error number => wrong ("error reading " ++ Quoting.always source ++ ": " ++ number.text)
    | .ok bytes =>
      let isThere := (← ownEntryOf target).isOk
      let leadsNowhere := isThere && !(← entryOf target).isOk
      if leadsNowhere && !c.forced then
        wrong ("not writing through dangling symlink " ++ Quoting.always target)
      else
        if c.removesFirst && isThere then
          let _ ← Tool.change (·.unlink (Octets.path target))
        let first ← Tool.writeFile target bytes (e.mode &&& 0o777)
        let result ← match first with
          | .ok () => pure (.ok ())
          | .error number =>
            if c.forced && isThere then
              match ← Tool.change (·.unlink (Octets.path target)) with
              | .ok () => Tool.writeFile target bytes (e.mode &&& 0o777)
              | .error number => pure (.error number)
            else pure (.error number)
        match result with
        | .ok () =>
          settle target (if c.keepsMode then some e.mode else none)
            (if c.keepsTime then some e.modified else none)
          return true
        | .error number =>
          let number := if number = .isDirectory && target.endsWith "/" then .notDirectory
            else number
          wrong ("cannot create regular file " ++ Quoting.always target ++ ": " ++ number.text)

/-- Copy what a path names to another path. `named` tells whether the path was given and not found
inside a directory; `fuel` bounds the depth. -/
def copyPath (c : Copying) (named : Bool) : Nat → Octets → Octets → Tool Unit
  | 0, _, _ => return ()
  | fuel + 1, source, target => do
    let follows := if named then c.followsNamed else c.followsInner
    let found ← if follows then entryOf source else ownEntryOf source
    match found with
    | .error number =>
      Tool.complain 1 ("cannot stat " ++ Quoting.always source ++ ": " ++ number.text)
    | .ok (l, e) =>
      let other ← entryOf target
      let own ← ownEntryOf target
      let isSame : Bool := match other with
        | .ok (_, other) => other.serial = e.serial
        | .error _ => false
      if e.isDirectory && !c.recursive then
        Tool.complain 1 ("-r not specified; omitting directory " ++ Quoting.always source)
      else if isSame && c.links? = none && !e.isDirectory && !c.removesFirst then
        Tool.complain 1 (Quoting.always source ++ " and " ++ Quoting.always target ++
          " are the same file")
      else match e.node, other with
        | .directory, .ok (_, { node := .file _, .. }) =>
          Tool.complain 1 ("cannot overwrite non-directory " ++ Quoting.always target ++
            " with directory " ++ Quoting.always source)
        | .directory, _ =>
          let isInside := match (← Tool.files).locate (Octets.path target).withoutSlash true with
            | .ok found => l.isPrefixOf found.location
            | .error _ => false
          if isInside then
            Tool.complain 1 ("cannot copy a directory, " ++ Quoting.always source ++
              ", into itself, " ++ Quoting.always target)
          else
            let made : Except Errno Bool ← match other with
              | .ok _ => pure (.ok false)
              | .error _ => pure ((← makeMasked target none).map fun _ => true)
            match made with
            | .error number =>
              Tool.complain 1 ("cannot create directory " ++ Quoting.always target ++ ": " ++
                number.text)
            | .ok fresh =>
              if fresh then tellCopy c source target
              if !e.readable then
                Tool.complain 1 ("cannot access " ++ Quoting.always source ++ ": " ++
                  Errno.accessDenied.text)
              else
                for name in (← Tool.files).children l do
                  let name := Octets.ofGlyphs name
                  copyPath c false fuel (below source name) (below target name)
              let umask := (← Tool.invocation).umask
              settle target
                (if c.keepsMode then some e.mode
                  else if fresh then some (e.mode &&& (0o777 ^^^ umask)) else none)
                (if c.keepsTime then some e.modified else none)
        | _, .ok (_, { node := .directory, .. }) =>
          Tool.complain 1 ("cannot overwrite directory " ++ Quoting.always target ++
            " with non-directory")
        | .link goal, _ =>
          if own.isOk && c.spares then return ()
          if own.isOk then
            let _ ← Tool.change (·.unlink (Octets.path target))
          match ← Tool.change (·.makeLink goal (Octets.path target)) with
          | .ok () => tellCopy c source target
          | .error number =>
            Tool.complain 1 ("cannot create symbolic link " ++ Quoting.always target ++ ": " ++
              number.text)
        | _, other =>
          let isFresh := match other with
            | .ok (_, other) => c.updates && e.modified ≤ other.modified
            | .error _ => false
          if isFresh || (own.isOk && c.spares) then return ()
          match c.links? with
          | none =>
            if ← copyFile c source target e then tellCopy c source target
          | some symbolic =>
            if own.isOk && c.forced then
              let _ ← Tool.change (·.unlink (Octets.path target))
            let result ← Tool.change fun files =>
              if symbolic then files.makeLink (Octets.path source) (Octets.path target)
              else files.shareEntry (Octets.path source) (Octets.path target)
            match result with
            | .ok () => tellCopy c source target
            | .error number =>
              Tool.complain 1 ("cannot create " ++ (if symbolic then "symbolic link " else
                "hard link ") ++ Quoting.always target ++ (if symbolic then "" else " to " ++
                Quoting.always source) ++ ": " ++ number.text)

/-- The pairs of a source and a target that operands stand for: several sources need a directory to
go into. `direct` keeps a single target as it is. -/
def pairsOf (into? : Option Octets) (direct : Bool) (operands : List Octets) :
    Tool (List (Octets × Octets)) := do
  let inside (directory : Octets) (sources : List Octets) : List (Octets × Octets) :=
    sources.map fun source => (source, below directory (lastPart source))
  match into?, operands with
  | _, [] => Tool.failWithHint 1 "missing file operand"
  | some directory, sources =>
    match ← entryOf directory with
    | .ok (_, e) =>
      if e.isDirectory then return inside directory sources
      else Tool.fail 1 ("target directory " ++ Quoting.always directory ++ ": " ++
        Errno.notDirectory.text)
    | .error number =>
      Tool.fail 1 ("target directory " ++ Quoting.always directory ++ ": " ++ number.text)
  | none, [source] =>
    Tool.failWithHint 1 ("missing destination file operand after " ++ Quoting.always source)
  | none, operands =>
    let target := operands.getLastD ""
    let sources := operands.dropLast
    if direct then
      match sources with
      | [source] => return [(source, target)]
      | _ => Tool.failWithHint 1 ("extra operand " ++ Quoting.always ((operands[2]?).getD ""))
    else match ← entryOf target with
      | .ok (_, e) =>
        if e.isDirectory then return inside target sources
        else match sources with
          | [source] => return [(source, target)]
          | _ => Tool.fail 1 ("target " ++ Quoting.always target ++ ": " ++
              Errno.notDirectory.text)
      | .error number =>
        match sources with
        | [source] => return [(source, target)]
        | _ => Tool.fail 1 ("target " ++ Quoting.always target ++ ": " ++ number.text)

/-- Copy files, and directories if asked to. -/
def cp : Program := do
  let g ← Tool.options
    [.flag 'a' "archive", .flag 'b', .named '\x03' "backup" .perhaps, .flag 'd', .flag 'f' "force",
      .flag 'H', .flag 'i' "interactive", .flag 'l' "link", .flag 'L' "dereference",
      .flag 'n' "no-clobber", .flag 'P' "no-dereference", .flag 'p',
      .named '\x04' "preserve" .perhaps, .flag 'r' "recursive", .flag 'R',
      .named '\x05' "remove-destination", .flag 's' "symbolic-link",
      .valued 't' "target-directory", .flag 'T' "no-target-directory",
      .flag 'u' "update", .flag 'v' "verbose", .flag 'x' "one-file-system",
      .named '\x06' "parents", .named '\x07' "reflink" .perhaps,
      .named '\x08' "no-preserve" .value, .named '\x0b' "sparse" .value]
  let recursive := g.has 'r' || g.has 'R' || g.has 'a'
  let keeps := g.has 'p' || g.has 'a'
  let attributes := (g.value? '\x04').map fun text =>
    if text = "" then ["mode", "timestamps"] else text.splitOn ","
  let asked (name : Octets) : Bool := (attributes.getD []).any fun a => a = name || a = "all"
  let following : Option Char := g.last? ['L', 'P', 'H', 'd', 'a']
  let (named, inner) : Bool × Bool := match following with
    | some 'L' => (true, true)
    | some 'H' => (true, false)
    | some _ => (false, false)
    | none => (!recursive, false)
  let c : Copying :=
    { recursive := recursive, followsNamed := named, followsInner := inner
      keepsMode := keeps || asked "mode", keepsTime := keeps || asked "timestamps"
      forced := g.has 'f', spares := g.last? ['n', 'i', 'f'] = some 'n' || g.has 'i' && !g.has 'f'
      updates := g.has 'u', told := g.has 'v', removesFirst := g.has '\x05'
      links? := if g.has 's' then some true else if g.has 'l' then some false else none }
  let pairs ← pairsOf (g.value? 't') (g.has 'T') g.operands
  for (source, target) in pairs do
    let depth := (← Tool.files).entries.length
    let target := if g.has '\x06' then
        below (g.operands.getLastD "") source
      else target
    if g.has '\x06' then
      for step in ancestorsOf target do
        let _ ← makeMasked step none
    copyPath c true (depth + 2) source target

def mv : Program := do
  let g ← Tool.options
    [.flag 'b', .named '\x03' "backup" .perhaps, .flag 'f' "force", .flag 'i' "interactive",
      .flag 'n' "no-clobber", .valued 't' "target-directory", .flag 'T' "no-target-directory",
      .flag 'u' "update", .flag 'v' "verbose", .named '\x04' "strip-trailing-slashes"]
  let spares : Bool := g.last? ['n', 'i', 'f'] = some 'n'
  let pairs ← pairsOf (g.value? 't') (g.has 'T') g.operands
  for (source, target) in pairs do
    match ← ownEntryOf source with
    | .error number =>
      Tool.complain 1 ("cannot stat " ++ Quoting.always source ++ ": " ++ number.text)
    | .ok (_, e) =>
      let other ← ownEntryOf target
      let stays : Bool := match other with
        | .ok (_, other) => spares || (g.has 'u' && e.modified ≤ other.modified)
        | .error _ => false
      let isSame : Bool := match other with
        | .ok (_, other) => other.serial = e.serial
        | .error _ => false
      if stays then pure ()
      else if isSame then
        Tool.complain 1 (Quoting.always source ++ " and " ++ Quoting.always target ++
          " are the same file")
      else match e.node, other with
        | .directory, .ok (_, { node := .file _, .. }) =>
          Tool.complain 1 ("cannot overwrite non-directory " ++ Quoting.always target ++
            " with directory " ++ Quoting.always source)
        | .file _, .ok (_, { node := .directory, .. }) =>
          Tool.complain 1 ("cannot overwrite directory " ++ Quoting.always target ++
            " with non-directory")
        | _, _ =>
          match ← Tool.change (·.rename (Octets.path source) (Octets.path target)) with
          | .ok () =>
            if g.has 'v' then
              Tool.print ("renamed " ++ Quoting.always source ++ " -> " ++
                Quoting.always target ++ "\n")
          | .error number =>
            if number = .invalid then
              Tool.complain 1 ("cannot move " ++ Quoting.always source ++
                " to a subdirectory of itself, " ++ Quoting.always target)
            else
              Tool.complain 1 ("cannot move " ++ Quoting.always source ++ " to " ++
                Quoting.always target ++ ": " ++ number.text)

/-- Make links: second names of files, or files that hold a path. -/
def ln : Program := do
  let g ← Tool.options
    [.flag 'b', .named '\x03' "backup" .perhaps, .flag 'd', .flag 'F', .flag 'f' "force",
      .flag 'i' "interactive", .flag 'L' "logical", .flag 'n' "no-dereference",
      .flag 'P' "physical", .flag 'r' "relative", .flag 's' "symbolic",
      .valued 't' "target-directory", .flag 'T' "no-target-directory", .flag 'v' "verbose"]
  let symbolic := g.has 's'
  let keepsLink (target : Octets) : Tool Bool := do
    if !g.has 'n' then return false
    else match ← ownEntryOf target with
      | .ok (_, { node := .link _, .. }) => return true
      | _ => return false
  let pairs ← match g.operands with
    | [source] =>
      if g.has 'T' then
        Tool.failWithHint 1 ("missing destination file operand after " ++ Quoting.always source)
      else pure [(source, below ((g.value? 't').getD ".") (lastPart source))]
    | operands =>
      let isDirect ← keepsLink (operands.getLastD "")
      pairsOf (g.value? 't') (g.has 'T' || (isDirect && operands.length = 2)) operands
  for (source, target) in pairs do
    let own ← ownEntryOf target
    let isDirectory := match own with
      | .ok (_, e) => e.isDirectory
      | .error _ => false
    let origin ← if g.has 'L' then entryOf source else ownEntryOf source
    let isSame : Bool := match own, origin with
      | .ok (_, a), .ok (_, b) => a.serial = b.serial
      | _, _ => false
    let stated? : Option Octets := match origin with
      | .error number => some ("failed to access " ++ Quoting.always source ++ ": " ++ number.text)
      | .ok (_, e) =>
        if e.isDirectory then some (source ++ ": hard link not allowed for directory") else none
    match (if symbolic then none else stated?) with
    | some text => Tool.complain 1 text
    | none =>
      if g.has 'f' && own.isOk && isDirectory then
        Tool.complain 1 (target ++ ": cannot overwrite directory")
      else if g.has 'f' && isSame && !symbolic then
        Tool.complain 1 (Quoting.always source ++ " and " ++ Quoting.always target ++
          " are the same file")
      else
        if g.has 'f' && own.isOk then
          let _ ← Tool.change (·.unlink (Octets.path target))
        let files ← Tool.files
        let held := if g.has 'r' && symbolic then
            let whole (text : Octets) : Octets :=
              match resolve files .nothing text with
              | .ok text => text
              | .error _ => text
            relativePath (whole (holderOf target)) (whole source)
          else source
        let result ← Tool.change fun files =>
          if symbolic then files.makeLink (Octets.path held) (Octets.path target)
          else files.shareEntry (Octets.path source) (Octets.path target)
        match result with
        | .ok () =>
          if g.has 'v' then
            Tool.print (Quoting.always target ++ (if symbolic then " -> " else " => ") ++
              Quoting.always held ++ "\n")
        | .error number =>
          let what := if symbolic then "failed to create symbolic link " ++ Quoting.always target ++
              (if held = "" || number = .nameTooLong then " -> " ++ Quoting.always held else "")
            else "failed to create hard link " ++ Quoting.always target ++
              (if number = .alreadyExists then "" else " => " ++ Quoting.always source)
          Tool.complain 1 (what ++ ": " ++ number.text)

/-- Copy files and set their permissions, or make directories. -/
def install : Program := do
  let g ← Tool.options
    [.flag 'b', .flag 'c', .flag 'C' "compare", .flag 'd' "directory", .flag 'D',
      .valued 'g' "group", .valued 'm' "mode", .valued 'o' "owner",
      .flag 'p' "preserve-timestamps", .flag 's' "strip", .valued 't' "target-directory",
      .flag 'T' "no-target-directory", .flag 'v' "verbose"]
  let mode ← match g.value? 'm' with
    | none => pure 0o755
    | some text => pure ((← readMode 1 false text) false 0)
  if g.has 'd' then
    if g.operands = [] then Tool.failWithHint 1 "missing file operand"
    for path in g.operands do
      for step in ancestorsOf path do
        let _ ← makeMasked step (some 0o755)
      match ← makeMasked path (some mode) with
      | .ok () =>
        if g.has 'v' then
          Tool.print ((← Tool.invocation).name ++ ": creating directory " ++
            Quoting.always path ++ "\n")
      | .error number =>
        if ← namesDirectory path then
          let _ ← Tool.change (·.setMode (Octets.path path) mode)
        else
          Tool.complain 1 ("cannot create directory " ++ Quoting.always path ++ ": " ++
            number.text)
  else
    if g.has 'D' then
      let holders := match g.value? 't', g.operands with
        | some directory, _ => below directory "x"
        | none, operands => operands.getLastD ""
      for step in ancestorsOf holders do
        let _ ← makeMasked step (some 0o755)
    let pairs ← pairsOf (g.value? 't') (g.has 'T') g.operands
    for (source, target) in pairs do
      match ← entryOf source with
      | .error number =>
        Tool.complain 1 ("cannot stat " ++ Quoting.always source ++ ": " ++ number.text)
      | .ok (_, e) =>
        if e.isDirectory then
          Tool.complain 1 ("omitting directory " ++ Quoting.always source)
        else
          let c : Copying := { removesFirst := true, keepsTime := g.has 'p', told := g.has 'v' }
          if ← copyFile c source target e then
            tellCopy c source target
            settle target (some mode) none

def blockSettings (operands : List Octets) : Tool (List (Octets × Octets)) :=
  operands.mapM fun operand => do
    let name := (operand.takeWhile (· ≠ '=')).toString
    if name.length = operand.length then
      Tool.failWithHint 1 ("unrecognized operand " ++ Quoting.plain operand)
    else if !(["if", "of", "bs", "ibs", "obs", "cbs", "count", "skip", "seek", "conv", "status",
        "iflag", "oflag"].contains name) then
      Tool.failWithHint 1 ("unrecognized operand " ++ Quoting.plain operand)
    else return (name, (operand.drop (name.length + 1)).toString)

def dd : Program := do
  let g ← Tool.options []
  let settings ← blockSettings g.operands
  let amount (name : Octets) (usual : Nat) : Tool Nat := do
    match settings.reverse.lookup name with
    | none => return usual
    | some text =>
      match (text.splitOn "x").mapM measured? with
      | some factors => return factors.foldl (· * ·) 1
      | none => Tool.fail 1 ("invalid number: " ++ Quoting.plain text)
  let both ← amount "bs" 0
  let inputSize ← amount "ibs" 512
  let outputSize ← amount "obs" 512
  let inputSize := if both > 0 then both else inputSize
  let outputSize := if both > 0 then both else outputSize
  let skip ← amount "skip" 0
  let seek ← amount "seek" 0
  let count? ← match settings.reverse.lookup "count" with
    | none => pure none
    | some _ => pure (some (← amount "count" 0))
  let conversions := ((settings.reverse.lookup "conv").getD "").splitOn ","
  let has (name : Octets) : Bool := conversions.contains name
  let bytes ← match settings.reverse.lookup "if" with
    | none => Tool.readInput
    | some path => Tool.readInputFile path
  match bytes with
  | .error number =>
    match settings.reverse.lookup "if" with
    | some path => Tool.fail 1 ("failed to open " ++ Quoting.always path ++ ": " ++ number.text)
    | none => Tool.fail 1 ("error reading 'standard input': " ++ number.text)
  | .ok bytes =>
    let start := skip * inputSize
    let stop := match count? with
      | some count => start + count * inputSize
      | none => bytes.size
    let part := bytes.extract start stop
    let change (c : Char) : Char :=
      if has "ucase" then c.toUpper else if has "lcase" then c.toLower else c
    let out := if has "ucase" || has "lcase" then
        Octets.array (String.ofList ((Octets.ofArray part).toList.map change))
      else part
    let out := if has "sync" && out.size % inputSize ≠ 0 then
        out ++ ⟨Array.replicate (inputSize - out.size % inputSize) 0⟩
      else out
    match settings.reverse.lookup "of" with
    | none => Tool.writeBytes 1 out
    | some path =>
      let how : Opening := { writes := true, creates := true
                             empties := !has "notrunc" && seek = 0 }
      match ← Tool.openFile path how with
      | .error number =>
        Tool.fail 1 ("failed to open " ++ Quoting.always path ++ ": " ++ number.text)
      | .ok channel =>
        match (← get).session.channels[channel]? with
        | some (.file serial _ append reads writes) =>
          let offset := seek * outputSize
          Tool.alterSession fun s =>
            let old := s.content serial
            let cut := if has "notrunc" then s else { s with files := s.files.alter serial fun e =>
              { e with node := .file (old.extract 0 offset) } }
            (cut.setChannel channel (.file serial offset append reads writes)).write channel out
        | _ => Tool.alterSession (·.write channel out)
    let records (size block : Nat) : Octets :=
      toString (size / block) ++ "+" ++ (if size % block = 0 then "0" else "1")
    let status := (settings.reverse.lookup "status").getD ""
    if status ≠ "none" then
      Tool.printError (records part.size inputSize ++ " records in")
      Tool.printError (records out.size outputSize ++ " records out")
      if status ≠ "noxfer" then
        Tool.printError (toString out.size ++ (if out.size = 1 then " byte" else " bytes") ++
          " copied, 0.0001 s, 1.0 MB/s")

def pieceEnding (digits : Bool) (length number : Nat) : Octets :=
  let base := if digits then 10 else 26
  let first := if digits then '0' else 'a'
  String.ofList ((List.range length).reverse.map fun k =>
    Char.ofNat (first.toNat + number / Nat.pow base k % base))

def split : Program := do
  let g ← Tool.options
    [.valued 'a' "suffix-length", .named '\x03' "additional-suffix" .value, .valued 'b' "bytes",
      .valued 'C' "line-bytes", .flag 'd', .named '\x04' "numeric-suffixes" .perhaps,
      .flag 'e' "elide-empty-files", .valued 'l' "lines", .valued 'n' "number",
      .flag 'u' "unbuffered", .named '\x05' "verbose"]
  let amount (key : Char) (what : Octets) : Tool (Option Nat) := do
    match g.value? key with
    | none => return none
    | some text =>
      match measured? text with
      | some 0 => Tool.fail 1 ("invalid number of " ++ what ++ ": " ++ Quoting.plain text)
      | some n => return some n
      | none => Tool.fail 1 ("invalid number of " ++ what ++ ": " ++ Quoting.plain text)
  let bytes? ← amount 'b' "bytes"
  let lines? ← amount 'l' "lines"
  let parts? ← amount 'n' "chunks"
  let length := ((g.value? 'a').bind fun text => natural? text.toList).getD 2
  let digits := g.has 'd' || g.has '\x04'
  let start := ((g.value? '\x04').bind fun text => natural? text.toList).getD 0
  let input := g.operands.headD "-"
  let name := (g.operands.drop 1).headD "x"
  match ← Tool.load input with
  | .error (.closed number) =>
    Tool.fail 1 ("cannot open " ++ Quoting.always input ++ " for reading: " ++ number.text)
  | .error (.unread number) => Tool.fail 1 (Quoting.beforeColon input ++ ": " ++ number.text)
  | .ok text =>
    let cs := text.toList
    let pieces : List (List Char) := match bytes?, parts? with
      | some n, _ => chunks n cs
      | none, some n =>
        (List.range n).map fun k =>
          let size := cs.length / n
          let front := k * size
          (cs.drop front).take (if k + 1 = n then cs.length - front else size)
      | none, none =>
        let (lines, isOpen) := linesOf text
        let n := lines?.getD 1000
        let groups := chunks n lines
        (groups.zip (List.range groups.length)).map fun (group, k) =>
          (unlinesOpen group (isOpen && k + 1 = groups.length)).toList
    for (piece, k) in pieces.zip (List.range pieces.length) do
      let path := name ++ pieceEnding digits length (start + k) ++ (g.value? '\x03').getD ""
      match ← Tool.writeFile path (Octets.array (String.ofList piece)) with
      | .ok () => pure ()
      | .error number => Tool.fail 1 (Quoting.beforeColon path ++ ": " ++ number.text)
where
  /-- Groups of neighbours of at most so many. -/
  chunks {α : Type} (n : Nat) (xs : List α) : List (List α) :=
    (List.range ((xs.length + n - 1) / n)).map fun k => (xs.drop (k * n)).take n

end Launchpad.Machine.Programs
