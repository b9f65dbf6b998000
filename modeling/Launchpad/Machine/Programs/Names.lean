import Launchpad.Machine.Inputs
import Launchpad.Machine.Runnable

/-!
Programs that work on names of files: taking them apart, following links, looking for programs, and
finding names that are still free.
-/

namespace Launchpad.Machine.Programs

def withoutSlashes (cs : List Char) : List Char :=
  (cs.reverse.dropWhile (· = '/')).reverse

/-- The last part of a path; a path of slashes alone is its own last part. -/
def lastPart (text : Octets) : Octets :=
  let cs := withoutSlashes text.toList
  if cs = [] then (if text = "" then "" else "/")
  else String.ofList (cs.reverse.takeWhile (· ≠ '/')).reverse

def holderOf (text : Octets) : Octets :=
  let cs := withoutSlashes text.toList
  let front := withoutSlashes (cs.reverse.dropWhile (· ≠ '/')).reverse
  if front ≠ [] then String.ofList front
  else if text.startsWith "/" then "/" else "."

def withoutEnding (ending name : Octets) : Octets :=
  if ending ≠ "" && name ≠ ending && name.endsWith ending then
    (name.dropEnd ending.length).toString
  else name

/-- Print the last parts of paths. -/
def basename : Program := do
  let g ← Tool.options
    [.flag 'a' "multiple", .valued 's' "suffix", .flag 'z' "zero"] 1 false
  let lineEnd : Octets := if g.has 'z' then "\x00" else "\n"
  if g.operands = [] then Tool.missingOperand
  else if g.has 'a' || g.has 's' then
    for path in g.operands do
      Tool.print (withoutEnding ((g.value? 's').getD "") (lastPart path) ++ lineEnd)
  else match g.operands with
    | _ :: _ :: extra :: _ => Tool.failWithHint 1 ("extra operand " ++ Quoting.plain extra)
    | path :: rest =>
      Tool.print (withoutEnding (rest.headD "") (lastPart path) ++ lineEnd)
    | [] => return ()

def dirname : Program := do
  let g ← Tool.options [.flag 'z' "zero"] 1 false
  if g.operands = [] then Tool.missingOperand
  for path in g.operands do
    Tool.print (holderOf path ++ if g.has 'z' then "\x00" else "\n")

inductive Presence where
  | everything
  /-- All but the last part. -/
  | holder
  | nothing
  deriving DecidableEq, Repr, Inhabited

/-- Resolve the parts of a path that are there, and keep the others as they are. -/
def resolveLoosely (files : FileSystem) (start : Location) (pieces : List Name) : Location :=
  pieces.foldl (fun l piece =>
    if piece = [.char '.'] then l
    else if piece = Name.up then l.dropLast
    else match files.walk true FileSystem.linkLimit l [piece] false with
      | .ok found => found.location
      | .error _ => l ++ [piece]) start

/-- The place that a path leads to, all links followed. -/
def resolve (files : FileSystem) (presence : Presence) (text : Octets) : Except Errno Octets :=
  let p := Octets.path text
  let spelled (l : Location) : Octets := Octets.ofPath l.toPath
  if text = "" then .error .noEntry
  else match presence with
    | .everything =>
      match files.status p with
      | .ok (l, _) => .ok (spelled l)
      | .error e => .error e.number
    | .holder =>
      match files.locate (if (files.find p true).isOk then p else p.withoutSlash) true with
      | .ok found => .ok (spelled found.location)
      | .error e => .error e.number
    | .nothing =>
      .ok (spelled (resolveLoosely files (if p.isAbsolute then [] else files.here) p.pieces))

/-- How much of a path has to be there, by the letters of options. -/
def presenceOf (g : Given) (usual : Presence) : Presence :=
  match g.last? ['e', 'f', 'm', 'E'] with
  | some 'e' => .everything
  | some 'm' => .nothing
  | some _ => .holder
  | none => usual

/-- Print what links hold, or where paths lead in the end. -/
def readlink : Program := do
  let g ← Tool.options
    [.flag 'f' "canonicalize", .flag 'e' "canonicalize-existing",
      .flag 'm' "canonicalize-missing", .flag 'n' "no-newline", .flag 'q' "quiet",
      .flag 's' "silent", .flag 'v' "verbose", .flag 'z' "zero"]
  if g.operands = [] then Tool.missingOperand
  let resolves := g.has 'f' || g.has 'e' || g.has 'm'
  let lineEnd : Octets := if g.has 'z' then "\x00"
    else if g.has 'n' && g.operands.length = 1 then "" else "\n"
  for path in g.operands do
    let files ← Tool.files
    let answer : Except Errno Octets :=
      if resolves then resolve files (presenceOf g .holder) path
      else match files.find (Octets.path path) false with
        | .error e => .error e.number
        | .ok (_, e) =>
          match e.node with
          | .link target => .ok (Octets.ofPath target)
          | _ => .error .invalid
    match answer with
    | .ok text => Tool.print (text ++ lineEnd)
    | .error number =>
      if g.has 'v' then Tool.warn (Quoting.beforeColon path ++ ": " ++ number.text)
      Tool.mark 1

def relativePath (base target : Octets) : Octets :=
  let parts (text : Octets) : List Octets := (text.splitOn "/").filter (· ≠ "")
  let a := parts base
  let b := parts target
  let common := ((a.zip b).takeWhile fun (x, y) => x = y).length
  let up := List.replicate (a.length - common) ".."
  let way := up ++ b.drop common
  if way = [] then "." else "/".intercalate way

def realpath : Program := do
  let g ← Tool.options
    [.flag 'e' "canonicalize-existing", .flag 'm' "canonicalize-missing", .flag 'E',
      .flag 'L' "logical", .flag 'P' "physical", .flag 'q' "quiet", .flag 's' "strip",
      .flag 's' "no-symlinks", .flag 'z' "zero", .named '\x03' "relative-to" .value,
      .named '\x04' "relative-base" .value]
  if g.operands = [] then Tool.missingOperand
  let presence := presenceOf g .holder
  let base? ← match g.value? '\x03' with
    | none => pure none
    | some base =>
      match resolve (← Tool.files) presence base with
      | .ok text => pure (some text)
      | .error number => Tool.fail 1 (Quoting.beforeColon base ++ ": " ++ number.text)
  for path in g.operands do
    match resolve (← Tool.files) presence path with
    | .ok text =>
      let shown := match base? with
        | some base => relativePath base text
        | none => text
      Tool.print (shown ++ if g.has 'z' then "\x00" else "\n")
    | .error number =>
      if g.has 'q' then Tool.mark 1
      else Tool.complain 1 (Quoting.beforeColon path ++ ": " ++ number.text)

/-- Print the path of the working directory. -/
def pwd : Program := do
  let g ← Tool.options [.flag 'L' "logical", .flag 'P' "physical"]
  if g.operands ≠ [] then Tool.warn "ignoring non-option arguments"
  let files ← Tool.files
  let physical := Octets.ofPath files.here.toPath
  let given? ← Tool.setting? "PWD"
  let shown ← match (if g.last? ['L', 'P'] = some 'L' then given? else none) with
    | none => pure physical
    | some path =>
      match files.status (Octets.path path) with
      | .ok (l, _) => pure (if path.startsWith "/" && l = files.here then path else physical)
      | .error _ => pure physical
  Tool.print (shown ++ "\n")

def isProgramFile (files : FileSystem) (path : Octets) : Bool :=
  match files.status (Octets.path path) with
  | .ok (_, e) => e.isFile && e.executable
  | .error _ => false

def which : Program := do
  let i ← Tool.invocation
  let options := i.args.takeWhile fun arg => arg.startsWith "-" && arg.length > 1
  let letters := options.flatMap fun arg => arg.toList.drop 1
  let names := i.args.drop options.length
  match letters.find? fun c => c ≠ 'a' && c ≠ 's' with
  | some c =>
    Tool.printError ("Illegal option -" ++ String.ofList [c])
    Tool.printError ("Usage: /usr/bin/which [-as] args")
    Tool.exit 2
  | none =>
    let searched := (i.environment.lookup "PATH").getD usualSearch
    if names = [] then Tool.mark 1
    for name in names do
      let files ← Tool.files
      let found := (searchPaths name searched).filter (isProgramFile files)
      if found = [] then Tool.mark 1
      else if !letters.contains 's' then
        Tool.print (unlines (if letters.contains 'a' then found else found.take 1))

def lettersFrom (seed : Nat) : Nat → List Char
  | 0 => []
  | count + 1 =>
    let letters := "abcdefghijklmnopqrstuvwxyzABCDEFGHIJKLMNOPQRSTUVWXYZ0123456789".toList
    (letters[seed % 62]?).getD 'a' :: lettersFrom (seed * 1103515245 / 7 + 12345) count

/-- Make a file or a directory under a name that is free. -/
def mktemp : Program := do
  let g ← Tool.options
    [.flag 'd' "directory", .flag 'u' "dry-run", .flag 'q' "quiet", .valued 'p',
      .named '\x03' "tmpdir" .perhaps, .named '\x04' "suffix" .value, .flag 't', .flag 'V']
  match g.operands with
  | _ :: _ :: _ => Tool.failWithHint 1 "too many templates"
  | operands =>
    let template := operands.headD "tmp.XXXXXXXXXX"
    let inTemporary := operands = [] || g.has 't' || g.has 'p' || g.has '\x03'
    let usual := ((← Tool.setting? "TMPDIR").filter (· ≠ "")).getD "/tmp"
    let holder := match (g.value? 'p').orElse fun _ => (g.value? '\x03').filter (· ≠ "") with
      | some holder => holder
      | none => usual
    let suffix? := g.value? '\x04'
    let cs := template.toList
    let (front, marks, ending) := match suffix? with
      | some suffix =>
        let marks := cs.reverse.takeWhile (· = 'X')
        ((cs.reverse.dropWhile (· = 'X')).reverse, marks, suffix)
      | none =>
        let ending := cs.reverse.takeWhile (· ≠ 'X')
        let rest := cs.reverse.dropWhile (· ≠ 'X')
        ((rest.dropWhile (· = 'X')).reverse, rest.takeWhile (· = 'X'),
          String.ofList ending.reverse)
    if marks.length < 3 then
      Tool.fail 1 ("too few X's in template " ++ Quoting.plain template)
    let i ← Tool.invocation
    let files ← Tool.files
    let seed := i.numbers.headD 0 * 2654435761 + files.nextSerial * 40503 + 977
    let name := String.ofList front ++ String.ofList (lettersFrom seed marks.length) ++ ending
    let path := if inTemporary then
        (if holder.endsWith "/" then holder ++ name else holder ++ "/" ++ name)
      else name
    let made : Except Errno Unit ←
      if g.has 'u' then pure (.ok ())
      else if g.has 'd' then
        Tool.change fun files => do
          let files ← files.makeDirectory (Octets.path path)
          files.setMode (Octets.path path) 0o700
      else Tool.writeFile path ByteArray.empty 0o600
    match made with
    | .ok () => Tool.print (path ++ "\n")
    | .error number =>
      if g.has 'q' then Tool.exit 1
      else
        let whole := if inTemporary then holder ++ "/" ++ template else template
        Tool.fail 1 ("failed to create " ++ (if g.has 'd' then "directory" else "file") ++
          " via template " ++ Quoting.plain whole ++ ": " ++ number.text)

end Launchpad.Machine.Programs
