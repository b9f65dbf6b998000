import Launchpad.Machine.Programs.Files
import Launchpad.Machine.Programs.Search

/-!
What the archiving program is asked to do. Its first argument may hold letters without a dash in
front of them; their values follow in the order of the letters. Directories to go into stand between
the names, and count for the names behind them.
-/

namespace Launchpad.Machine.Programs.Archiving

inductive Task where
  | create
  | append
  /-- Put in what is newer than in the archive. -/
  | update
  /-- Put in the members of other archives. -/
  | concatenate
  | delete
  | list
  | extract
  | compare
  deriving DecidableEq, Repr, Inhabited

inductive Standing where
  | replaced
  /-- It stays, which is an error. -/
  | kept
  /-- It stays, and the member is passed over. -/
  | spared
  /-- It stays if it is not older than the member. -/
  | keptIfNewer
  deriving DecidableEq, Repr, Inhabited

inductive Word where
  /-- The directory to go into. -/
  | enter (directory : Octets)
  | name (path : Octets)
  deriving DecidableEq, Repr, Inhabited

structure Holder where
  name : Octets
  number? : Option Nat
  deriving Inhabited

structure Order where
  task : Task
  /-- The file of the archive; a dash stands for the standard input or output. -/
  archive : Octets := "-"
  words : List Word := []
  told : Nat := 0
  excluded : List Octets := []
  wildcards : Bool := false
  recursive : Bool := true
  follows : Bool := false
  /-- Names are taken as they are. -/
  trusting : Bool := false
  standing : Standing := .replaced
  toOutput : Bool := false
  keepsMode : Bool := false
  keepsTime : Bool := true
  resetsDirectories : Bool := true
  /-- How many parts are taken off the front of names. -/
  stripped : Nat := 0
  modified? : Option Nat := none
  /-- What becomes of permissions, for directories and for other files. -/
  mode? : Option (Bool → Nat → Nat) := none
  owner? : Option Holder := none
  group? : Option Holder := none
  numeric : Bool := false
  fullTime : Bool := false
  removes : Bool := false
  /-- The directory in which everything is put. -/
  top? : Option Octets := none
  deriving Inhabited

/-- Numbers for the options that have only a long name. -/
def excludeKey : Char := '\x03'
def deleteKey : Char := '\x04'
def flatKey : Char := '\x05'
def deepKey : Char := '\x06'
def spareKey : Char := '\x07'
def newerKey : Char := '\x08'
def keepDirectoriesKey : Char := '\x0b'
def maskedKey : Char := '\x0c'
def stripKey : Char := '\x0e'
def timeKey : Char := '\x0f'
def ownerKey : Char := '\x10'
def groupKey : Char := '\x11'
def numericKey : Char := '\x12'
def fullTimeKey : Char := '\x13'
def removeKey : Char := '\x14'
def topKey : Char := '\x15'
def wildcardsKey : Char := '\x16'
def literalKey : Char := '\x17'
def modeKey : Char := '\x18'
def ignoredKey : Char := '\x19'

def nameKey : Char := '\x00'

def choices : List Choice :=
  [.flag 'c' "create", .flag 'r' "append", .flag 'u' "update", .flag 'A' "catenate",
    .flag 'A' "concatenate", .named deleteKey "delete", .flag 't' "list", .flag 'x' "extract",
    .flag 'x' "get", .flag 'd' "diff", .flag 'd' "compare", .valued 'f' "file",
    .flag 'v' "verbose", .valued 'C' "directory", .valued 'T' "files-from",
    .valued 'X' "exclude-from", .named excludeKey "exclude" .value,
    .named flatKey "no-recursion", .named deepKey "recursion", .flag 'h' "dereference",
    .flag 'P' "absolute-names", .flag 'k' "keep-old-files", .named spareKey "skip-old-files",
    .named newerKey "keep-newer-files", .named keepDirectoriesKey "no-overwrite-dir",
    .flag 'U' "unlink-first", .flag 'O' "to-stdout", .flag 'p' "preserve-permissions",
    .flag 'p' "same-permissions", .named maskedKey "no-same-permissions", .flag 'm' "touch",
    .named stripKey "strip-components" .value, .named timeKey "mtime" .value,
    .named modeKey "mode" .value, .named ownerKey "owner" .value, .named groupKey "group" .value,
    .named numericKey "numeric-owner", .named fullTimeKey "full-time",
    .named removeKey "remove-files", .named topKey "one-top-level" .perhaps,
    .named wildcardsKey "wildcards", .named literalKey "no-wildcards", .flag 'z' "gzip",
    .flag 'z' "gunzip", .flag 'z' "ungzip", .flag 'j' "bzip2", .flag 'J' "xz",
    .valued 'b' "blocking-factor", .valued 'H' "format", .flag 'S' "sparse",
    .flag 'i' "ignore-zeros", .flag 'B' "read-full-records", .flag 'l' "check-links", .flag 'o',
    .flag 'a' "auto-compress", .flag 'n' "seek", .flag 's' "preserve-order",
    .named ignoredKey "overwrite", .named ignoredKey "same-owner",
    .named ignoredKey "no-same-owner", .named ignoredKey "sort" .value,
    .named ignoredKey "anchored", .named ignoredKey "no-anchored",
    .named ignoredKey "warning" .value, .named ignoredKey "verbatim-files-from"]

def compressors : List (Char × Octets) := [('z', "gzip"), ('j', "bzip2"), ('J', "xz")]

def tasks : List (Char × Task) :=
  [('c', .create), ('r', .append), ('u', .update), ('A', .concatenate), (deleteKey, .delete),
    ('t', .list), ('x', .extract), ('d', .compare)]

/-- End with a status after the line that points to the help. -/
def hint {α : Type} (status : Nat) : Tool α := do
  let name := (← Tool.invocation).name
  Tool.printError ("Try '" ++ name ++ " --help' or '" ++ name ++ " --usage' for more information.")
  Tool.exit status

def giveUp {α : Type} (text : Octets) : Tool α := do
  Tool.warn text
  Tool.fail 2 "Error is not recoverable: exiting now"

/-- Letters without a dash, turned into options with their values. The error is a letter that lacks
its value. -/
def spread : List Char → List Octets → Except Char (List Octets)
  | [], rest => .ok rest
  | c :: cs, rest =>
    let option := String.ofList ['-', c]
    if choices.any fun choice => choice.lettered && choice.key = c && choice.takes = .value then
      match rest with
      | value :: rest => (spread cs rest).map (option :: value :: ·)
      | [] => .error c
    else (spread cs rest).map (option :: ·)

/-- The arguments with a dash before the first letters. -/
def dashed (args : List Octets) : Except Char (List Octets) :=
  match args with
  | first :: rest =>
    if first.startsWith "-" || first = "" then .ok args else spread first.toList rest
  | [] => .ok []

/-- Options and names in the order in which they were given. `fuel` bounds their number. -/
def inOrder : Nat → List Octets → Except Octets (List (Char × Octets))
  | 0, _ => .ok []
  | fuel + 1, args => do
    let given ← readOptions (choices ++ Tool.commonChoices) false args
    match given.operands with
    | [] => .ok given.options
    | name :: rest =>
      let more ← inOrder fuel rest
      .ok (given.options ++ (nameKey, name) :: more)

/-- Options and names; behind a double dash there are only names. -/
def readWords (args : List Octets) : Except Octets (List (Char × Octets)) := do
  let before := args.takeWhile (· ≠ "--")
  let behind := args.drop (before.length + 1)
  let options ← inOrder (before.length + 1) before
  .ok (options ++ behind.map fun name => (nameKey, name))

/-- An owner or a group: a name, a number, or a name with a number behind a colon. -/
def readHolder (text : Octets) : Holder :=
  let cs := text.toList
  let name := cs.takeWhile (· ≠ ':')
  match natural? (cs.drop (name.length + 1)), natural? name with
  | some n, _ => ⟨String.ofList name, some n⟩
  | none, some n => ⟨if n = 0 then "root" else "", some n⟩
  | none, none => ⟨String.ofList name, none⟩

/-- The words that the options and names of a command stand for. Files with names are read. -/
def readNames : List (Char × Octets) → Tool (List Word)
  | [] => return []
  | (key, value) :: rest => do
    let own : List Word ←
      if key = nameKey then pure [.name value]
      else if key = 'C' then pure [.enter value]
      else if key = 'T' then
        match ← Tool.readInputFile value with
        | .ok bytes =>
          pure (((linesOf (Octets.ofArray bytes)).1.filter (· ≠ "")).map .name)
        | .error number =>
          giveUp (Quoting.escaped value ++ ": Cannot stat: " ++ number.text)
      else pure []
    return own ++ (← readNames rest)

/-- The patterns of what is left out. Files with patterns are read. -/
def readExcluded : List (Char × Octets) → Tool (List Octets)
  | [] => return []
  | (key, value) :: rest => do
    let own : List Octets ←
      if key = excludeKey then pure [value]
      else if key = 'X' then
        match ← Tool.readInputFile value with
        | .ok bytes => pure ((linesOf (Octets.ofArray bytes)).1.filter (· ≠ ""))
        | .error number => giveUp (Quoting.escaped value ++ ": " ++ number.text)
      else pure []
    return own ++ (← readExcluded rest)

/-- Read the time that all members are to have. How it is understood is told if that is not how it
is written. -/
def readTime (tells : Bool) (text : Octets) : Tool Nat := do
  let now := (← Tool.files).now
  match readMoment? now text with
  | some moment =>
    let understood := (CivilTime.ofTimestamp moment).format "%Y-%m-%d %H:%M:%S"
    if tells && understood ≠ text then
      Tool.warn ("Option --mtime: Treating date '" ++ text ++ "' as " ++ understood)
    return moment.seconds.toNat
  | none =>
    Tool.warn ("Substituting -9223372036854775807 for unknown date format " ++ Quoting.plain text)
    return 0

/-- The directory that an archive's name suggests: the name without the ending of an archive. -/
def suggestedTop (archive : Octets) : Octets :=
  let name := lastPart archive
  if name.endsWith ".tar" then (name.dropEnd 4).toString else name

def readOrder : Tool Order := do
  let args ← match dashed (← Tool.args) with
    | .ok args => pure args
    | .error c =>
      Tool.warn ("Old option '" ++ String.ofList [c] ++ "' requires an argument.")
      hint 2
  let options ← match readWords args with
    | .ok options => pure options
    | .error why =>
      Tool.warn why
      hint 64
  let g : Given := { options := options }
  match g.last? [Tool.helpKey, Tool.versionKey] with
  | some key =>
    if key = Tool.helpKey then Tool.print "Usage: tar [OPTION...] [FILE]...\n"
    else Tool.print "tar (GNU tar) 1.34\n"
    Tool.exit 0
  | none => pure ()
  let asked := (tasks.filter fun (key, _) => g.has key).map (·.2)
  let task ← match asked with
    | [task] => pure task
    | [] =>
      Tool.warn ("You must specify one of the '-Acdtrux', '--delete' or '--test-label' options")
      hint 2
    | _ =>
      Tool.warn ("You may not specify more than one '-Acdtrux', '--delete' or  '--test-label' " ++
        "option")
      hint 2
  let modified? ← match g.value? timeKey with
    | none => pure none
    | some text => pure (some (← readTime (g.has 'v') text))
  let umask := (← Tool.invocation).umask
  let mode? ← match g.value? modeKey with
    | none => pure none
    | some text =>
      if (Permissions.change? umask false text 0).isSome then
        pure (some fun isDirectory mode =>
          (Permissions.change? umask isDirectory text mode).getD mode)
      else giveUp "Invalid mode given on option"
  let words ← readNames options
  let excluded ← readExcluded options
  if task = .create && words.all (fun w => w matches .enter _) && !g.has 'T' then
    Tool.warn "Cowardly refusing to create an empty archive"
    hint 2
  match compressors.find? fun (key, _) => g.has key with
  | some (_, program) =>
    let child := (← Tool.invocation).name ++ " (child): "
    Tool.printError (child ++ program ++ ": Cannot exec: " ++ Errno.noEntry.text)
    Tool.printError (child ++ "Error is not recoverable: exiting now")
    giveUp "Child returned status 2"
  | none => pure ()
  let standing : Standing := match g.last? ['k', spareKey, newerKey, 'U'] with
    | some 'k' => .kept
    | some key => if key = spareKey then .spared else if key = newerKey then .keptIfNewer
        else .replaced
    | none => .replaced
  let archive := (g.value? 'f').getD "-"
  return {
    task := task
    archive := archive
    words := words
    told := (g.values 'v').length
    excluded := excluded
    wildcards := g.last? [wildcardsKey, literalKey] = some wildcardsKey
    recursive := g.last? [flatKey, deepKey] ≠ some flatKey
    follows := g.has 'h'
    trusting := g.has 'P'
    standing := standing
    toOutput := g.has 'O'
    keepsMode := g.last? ['p', maskedKey] = some 'p'
    keepsTime := !g.has 'm'
    resetsDirectories := !g.has keepDirectoriesKey
    stripped := ((g.value? stripKey).bind fun text => natural? text.toList).getD 0
    modified? := modified?
    mode? := mode?
    owner? := (g.value? ownerKey).map readHolder
    group? := (g.value? groupKey).map readHolder
    numeric := g.has numericKey
    fullTime := g.has fullTimeKey
    removes := g.has removeKey
    top? := (g.value? topKey).map fun top => if top = "" then suggestedTop archive else top }

namespace Order

def fitsFront (wildcards : Bool) (pattern name : Octets) : Bool :=
  (name :: ancestorsOf name).any fun front =>
    if wildcards then fitsName pattern front else pattern = front

def endsOf (name : Octets) : List Octets :=
  let parts := name.splitOn "/"
  (List.range parts.length).map fun k => "/".intercalate (parts.drop k)

def excludes (o : Order) (name : Octets) : Bool :=
  let bare := String.ofList (withoutSlashes name.toList)
  o.excluded.any fun pattern => (endsOf bare).any (fitsFront true pattern)

end Order

end Launchpad.Machine.Programs.Archiving
