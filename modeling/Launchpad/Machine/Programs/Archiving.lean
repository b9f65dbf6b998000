import Launchpad.Machine.Programs.Archiving.Order
import Launchpad.Machine.Programs.Copies
import Launchpad.Machine.Programs.Listing
import Launchpad.Tar.Archive
import Launchpad.Tar.Written

/-!
Archives: files are put into an archive, what an archive holds is listed, compared with the files
or taken out again. Members with a fault are passed over, and the status tells of them in the end.
-/

namespace Launchpad.Machine.Programs

namespace Archiving

open Tar (Member Statement)

structure Progress where
  /-- What is said only once and has been said. -/
  said : List Octets := []
  /-- The members that files went into, by the files' serial numbers. -/
  stored : List (Nat × Octets) := []
  /-- The blocks that are to be written. -/
  blocks : ByteArray := ByteArray.empty
  /-- What is removed in the end, last things first. -/
  spent : List Octets := []
  /-- Directories with the permissions and the times that they get in the end. -/
  waiting : List (Octets × Option Nat × Option Timestamp) := []
  /-- Names that members were found for. -/
  found : List Octets := []

abbrev Archiver := StateT Progress Tool

def sayOnce (text : Octets) : Archiver Unit := do
  if !(← get).said.contains text then
    modify fun p => { p with said := text :: p.said }
    Tool.warn text

/-- How many characters at the front of a name lead out of a directory: everything up to the last
part that climbs, and the slashes behind it. -/
def leadingLength (name : Octets) : Nat :=
  let parts := name.splitOn "/"
  let climbing := ((List.range parts.length).filter fun k => parts[k]? = some "..").getLast?
  let cut := match climbing with
    | some k => ("/".intercalate (parts.take (k + 1))).length
    | none => 0
  cut + ((name.toList.drop cut).takeWhile (· = '/')).length

/-- A name without what leads out of a directory. `kind` tells what the name is for. -/
def tamed (o : Order) (kind name : Octets) : Archiver Octets := do
  if o.trusting then return name
  let length := leadingLength name
  if length > 0 then
    sayOnce ("Removing leading \x60" ++ (name.take length).toString ++ "' from " ++ kind)
  let rest := (name.drop length).toString
  if rest ≠ "" then return rest
  if length = 0 then sayOnce ("Substituting \x60.' for empty member name")
  return "."

def memberNames : Octets := "member names"
def linkTargets : Octets := "hard link targets"

def nameOf (m : Member) : Octets := Octets.ofBytes m.name

/-- A member is a directory. A name that ends in a slash makes one in the oldest layout. -/
def isDirectory (m : Member) : Bool :=
  m.header.kind = .directory || (m.header.kind = .regular && (nameOf m).endsWith "/")

def describe (o : Order) (m : Member) (shown : Octets) : Octets :=
  let h := m.header
  let letter : Octets := match h.kind with
    | .hardLink => "h"
    | .symbolicLink => "l"
    | _ => if isDirectory m then "d" else "-"
  let known (start numberStart : Nat) : Octets :=
    let text := Tar.Header.untilNul (h.field start 32)
    if text = [] || o.numeric then
      toString ((Tar.Header.number? (h.field numberStart 8)).getD 0)
    else Octets.ofBytes text
  let people := known 265 108 ++ "/" ++ known 297 116
  let size := toString (if isDirectory m then 0 else m.size)
  let moment := CivilTime.ofTimestamp (.ofParts ((h.modified?.getD 0 : Nat) : Int) 0)
  let target := Octets.ofBytes (m.linkName?.getD [])
  letter ++ Permissions.long (h.mode?.getD 0) ++ " " ++ people ++ " " ++
    padLeft (18 - people.length) size ++ " " ++
    moment.format (if o.fullTime then "%Y-%m-%d %H:%M:%S" else "%Y-%m-%d %H:%M") ++ " " ++
    Quoting.escaped shown ++ (match h.kind with
      | .symbolicLink => " -> " ++ Quoting.escaped target
      | .hardLink => " link to " ++ Quoting.escaped target
      | _ => "")

def tell (o : Order) (degree : Nat) (m : Member) (shown : Octets) : Tool Unit := do
  let line := if o.told ≥ degree then describe o m shown else Quoting.escaped shown
  let toOutput := o.archive = "-" && (o.task matches .create | .append | .update)
  if toOutput || o.toOutput then Tool.printError line
  else Tool.print (line ++ "\n")

/-! ### Putting files into an archive -/

def statementOf (o : Order) (name : Octets) (e : Entry) : Statement :=
  let m := thisMachine
  let holder (given? : Option Holder) (usual : Octets) (number : Nat) : Octets × Nat :=
    match given? with
    | some h => (h.name, h.number?.getD number)
    | none => (usual, number)
  let (user, userNumber) := holder o.owner? m.user m.userNumber
  let (group, groupNumber) := holder o.group? m.group m.groupNumber
  let (kind, target, size) : Tar.Kind × List UInt8 × Nat := match e.node with
    | .file content => (.regular, [], content.size)
    | .link target => (.symbolicLink, target.bytes, 0)
    | _ => (.directory, [], 0)
  let mode := (o.mode?.map fun f => f e.isDirectory e.mode).getD e.mode
  { name := Octets.bytes name, kind := kind, target := target, mode := mode
    userNumber := userNumber, groupNumber := groupNumber
    user := if o.numeric then [] else Octets.bytes user
    group := if o.numeric then [] else Octets.bytes group
    modified := o.modified?.getD e.modified.seconds.toNat, size := size }

def put (o : Order) (shown : Octets) (s : Statement) (content : ByteArray) : Archiver Unit := do
  if o.told > 0 then
    let target? := if s.target = [] then none else some s.target
    tell o 2 ⟨s.header, s.name, target?, s.size, content⟩ shown
  modify fun p => { p with blocks := p.blocks ++ s.blocks content }

structure Source where
  /-- The serial number of the archive's own file. -/
  own? : Option Nat
  /-- Members that the archive has, with their times. -/
  known : List (Octets × Nat)
  /-- A file with more names than this is looked for among the members. -/
  usualNames : Nat

/-- Put what a path names into the archive, a directory with everything in it. `fuel` bounds the
depth. -/
def store (o : Order) (source : Source) (directory : Octets) : Nat → Octets → Archiver Unit
  | 0, _ => return ()
  | fuel + 1, path => do
    let place := if directory = "" || path.startsWith "/" then path else below directory path
    let wrong (doing : Octets) (number : Errno) : Tool Unit :=
      Tool.complain 2 (Quoting.escaped path ++ ": Cannot " ++ doing ++ ": " ++ number.text)
    if o.excludes path then return ()
    match ← (if o.follows then entryOf place else ownEntryOf place : Tool _) with
    | .error number =>
      if path = "" then sayOnce "Substituting \x60.' for empty member name"
      wrong "stat" number
    | .ok (l, e) =>
      if source.own? = some e.serial then
        Tool.warn (Quoting.escaped path ++ ": file is the archive; not dumped")
      else if !e.readable && !(e.node matches .link _) then wrong "open" .accessDenied
      else
        let files ← Tool.files
        let bare := String.ofList (withoutSlashes path.toList)
        let slash := if e.isDirectory then "/" else ""
        let full := bare ++ slash
        let name := (← tamed o memberNames (if bare = "" then path else bare)) ++ slash
        let s := statementOf o name e
        let isOld : Bool := match source.known.lookup name with
          | some time => o.task = .update && s.modified ≤ time
          | none => false
        let isShared := !e.isDirectory && namesOf files l e > source.usualNames
        if e.isDirectory then
          if !isOld then put o full s ByteArray.empty
          if o.removes then modify fun p => { p with spent := place :: p.spent }
          if o.recursive then
            for child in files.children l do
              store o source directory fuel (below path (Octets.ofGlyphs child))
        else if isOld then pure ()
        else
          let stored := (← get).stored
          match (if isShared then stored.lookup e.serial else none) with
          | some first =>
            let target ← tamed o linkTargets first
            put o full { s with kind := .hardLink, target := Octets.bytes target, size := 0 }
              ByteArray.empty
          | none =>
            let content := match e.node with
              | .file content => content
              | _ => ByteArray.empty
            put o full s content
            if isShared then
              modify fun p => { p with stored := p.stored ++ [(e.serial, path)] }
          if o.removes then modify fun p => { p with spent := place :: p.spent }

def enter (here directory : Octets) : Tool Octets := do
  let place := if here = "" || directory.startsWith "/" then directory else below here directory
  match ← entryOf place with
  | .ok (_, e) =>
    if e.isDirectory then return place
    else giveUp (Quoting.escaped directory ++ ": Cannot open: " ++ Errno.notDirectory.text)
  | .error number => giveUp (Quoting.escaped directory ++ ": Cannot open: " ++ number.text)

def storeAll (o : Order) (source : Source) : Archiver Unit := do
  let mut here : Octets := ""
  for word in o.words do
    match word with
    | .enter directory => here ← enter here directory
    | .name path =>
      let depth := (← Tool.files).entries.length
      store o source here (depth + 2) path

def writeArchive (o : Order) (channel : Nat) (bytes : ByteArray) : Tool Unit := do
  match (← get).session.refusal? channel with
  | some number => giveUp (Quoting.escaped o.archive ++ ": Cannot write: " ++ number.text)
  | none => Tool.alterSession (·.write channel bytes)

def openArchive (o : Order) : Tool Nat := do
  let opened ← if o.archive = "-" then
      match (← Tool.invocation).descriptors.lookup 1 with
      | some channel => pure (.ok channel)
      | none => pure (.error .badDescriptor)
    else Tool.openFile o.archive .writing
  match opened with
  | .ok channel => return channel
  | .error number => giveUp (Quoting.escaped o.archive ++ ": Cannot open: " ++ number.text)

def removeSpent (paths : List Octets) : Tool Unit := do
  for path in paths do
    match ← ownEntryOf path with
    | .ok (_, e) =>
      let p := Octets.path path
      let _ ← Tool.change fun files =>
        if e.isDirectory then files.removeDirectory p else files.unlink p
    | .error _ => pure ()

def storeBehind (o : Order) (members : ByteArray) (known : List (Octets × Nat)) : Tool Unit := do
  let channel ← openArchive o
  let session := (← get).session
  let own? : Option Nat := match session.channels[channel]? with
    | some (.file serial ..) => some serial
    | _ => none
  let names := o.words.filter fun w => w matches .name _
  let usual := if names.length ≤ 1 && !o.follows then 1 else 0
  let ((), p) ← (storeAll o ⟨own?, known, usual⟩).run { blocks := members }
  writeArchive o channel (Tar.ended p.blocks)
  removeSpent p.spent

/-! ### Reading an archive -/

def readBytes (o : Order) : Tool ByteArray := do
  let name := Quoting.escaped o.archive
  let result ← if o.archive = "-" then Tool.readInput
    else match ← Tool.openFile o.archive .reading with
      | .error number => giveUp (name ++ ": Cannot open: " ++ number.text)
      | .ok channel => Tool.drain channel
  match result with
  | .ok bytes => return bytes
  | .error number =>
    Tool.warn (name ++ ": Cannot read: " ++ number.text)
    giveUp "At beginning of tape, quitting now"

/-- The offset of the next header from a block on, if there is one. `fuel` bounds the number of
blocks. -/
def nextHeader? (bytes : ByteArray) : Nat → Nat → Option Nat
  | 0, _ => none
  | fuel + 1, offset =>
    if offset + Tar.blockSize > bytes.size then none
    else
      let h : Tar.Header := ⟨bytes.extract offset (offset + Tar.blockSize)⟩
      if h.sumHolds then some offset else nextHeader? bytes fuel (offset + Tar.blockSize)

def complainOfForm : Tool Unit :=
  Tool.complain 2 "This does not look like a tar archive"

/-- Visit the members of an archive from an offset on; what is no member is skipped. `fuel` bounds
how often. -/
def visitFrom (bytes : ByteArray) (visit : Member → Archiver Unit) : Nat → Nat → Archiver Unit
  | 0, _ => return ()
  | fuel + 1, offset => do
    let archive := Tar.readFrom bytes offset
    let isStart := offset = 0 && archive.members = []
    for m in archive.members do
      if m.header.kind ≠ .globalSettings then visit m
    match archive.fault? with
    | some .shortPadding => giveUp "Unexpected EOF in archive"
    | some .shortBlock => if isStart then complainOfForm
    | some .badSum | some .badNumber =>
      if isStart then complainOfForm
      Tool.complain 2 "Skipping to next header"
      match nextHeader? bytes (bytes.size / Tar.blockSize + 1) (archive.stop + Tar.blockSize) with
      | some next => visitFrom bytes visit fuel next
      | none => return ()
    | _ =>
      if bytes.isEmpty then complainOfForm
      else if archive.stop + Tar.blockSize = bytes.size then
        Tool.warn ("A lone zero block at " ++ toString (archive.stop / Tar.blockSize + 1))

def wanted (o : Order) : List Octets :=
  o.words.filterMap fun w =>
    match w with
    | .name path => some (String.ofList (withoutSlashes path.toList))
    | .enter _ => none

/-- Whether a member was asked for. The names that ask for it are remembered. -/
def isChosen (o : Order) (name : Octets) : Archiver Bool := do
  let bare := String.ofList (withoutSlashes name.toList)
  if o.excludes name then return false
  let names := wanted o
  if names = [] then return !o.words.any (· matches .name _)
  let fitting := names.filter fun asked => Order.fitsFront o.wildcards asked bare
  modify fun p => { p with found := fitting ++ p.found }
  return fitting ≠ []

/-- Tell of names that no member was found for. -/
def complainOfMissing (o : Order) (found : List Octets) : Tool Unit := do
  let missing := (wanted o).filter fun name => !found.contains name
  let isPattern (name : Octets) : Bool := name.toList.any fun c => ['*', '?', '['].contains c
  if missing.any isPattern && !o.wildcards then
    Tool.warn "Pattern matching characters used in file names"
    Tool.warn ("Use --wildcards to enable pattern matching, or --no-wildcards to suppress this " ++
      "warning")
  for name in missing do
    Tool.complain 2 (Quoting.escaped name ++ ": Not found in archive")

def visitChosen (o : Order) (visit : Member → Octets → Archiver Unit) : Tool Progress := do
  let bytes ← readBytes o
  let chosen (m : Member) : Archiver Unit := do
    let name ← tamed o memberNames (nameOf m)
    if ← isChosen o name then visit m name
  let ((), p) ← (visitFrom bytes chosen (bytes.size / Tar.blockSize + 1) 0).run {}
  complainOfMissing o p.found
  return p

def placeOf (o : Order) : Tool Octets :=
  o.words.foldlM (fun here word =>
    match word with
    | .enter directory => enter here directory
    | .name _ => return here) ""

/-! ### Taking members out -/

/-- A name without so many parts at its front; `none` when nothing is left. -/
def stripParts : Nat → List Char → Option (List Char)
  | 0, cs => if cs = [] then none else some cs
  | n + 1, cs =>
    let behind := (cs.dropWhile (· = '/')).dropWhile (· ≠ '/')
    if behind = [] then none else stripParts n (behind.dropWhile (· = '/'))

def placed (o : Order) (here name : Octets) : Option Octets := do
  let cs ← stripParts o.stripped name.toList
  let own := String.ofList cs
  let inside := match o.top? with
    | some top => below top own
    | none => own
  return if here = "" || inside.startsWith "/" then inside else below here inside

def makeAncestors (place : Octets) : Tool Unit := do
  for step in ancestorsOf place do
    let _ ← makeMasked step none

/-- Remove what stands at a path. The answer tells whether it is gone. -/
def clear (place : Octets) : Tool Bool := do
  match ← ownEntryOf place with
  | .ok (_, e) =>
    let p := Octets.path place
    let result ← Tool.change fun files =>
      if e.isDirectory then files.removeDirectory p else files.unlink p
    return result.isOk
  | .error _ => return true

/-- Make something at a path. Directories that are missing are made, and what stands there gives
way if it may. The answer tells whether it was made. `fuel` bounds the number of tries. -/
def make (o : Order) (m : Member) (place : Octets) (cannot : Errno → Tool Unit)
    (change : FileSystem → Except IoError FileSystem) : Nat → Tool Bool
  | 0 => return false
  | fuel + 1 => do
    match ← Tool.change change with
    | .ok () => return true
    | .error .alreadyExists =>
      let own ← ownEntryOf place
      let isNewer : Bool := match own with
        | .ok (_, e) => e.modified.seconds ≥ ((m.header.modified?.getD 0 : Nat) : Int)
        | .error _ => false
      let passes : Bool := match o.standing with
        | .replaced => false
        | .kept => false
        | .spared => true
        | .keptIfNewer => isNewer
      if passes then return false
      if o.standing = .kept || fuel = 0 then
        cannot .alreadyExists
        return false
      if ← clear place then make o m place cannot change fuel
      else
        cannot .alreadyExists
        return false
    | .error number =>
      if number = .noEntry && fuel > 0 then
        makeAncestors place
        make o m place cannot change fuel
      else
        cannot number
        return false

def tries : Nat := 3

def extract (o : Order) (here : Octets) (m : Member) (name : Octets) : Archiver Unit := do
  if !o.trusting && ((nameOf m).splitOn "/").contains ".." then
    Tool.complain 2 (Quoting.escaped (nameOf m) ++ ": Member name contains '..'")
    return ()
  match placed o here name with
  | none => return ()
  | some place =>
    if o.told > 0 then tell o 2 m (nameOf m)
    let shown := Quoting.escaped name
    let cannot (doing : Octets) (number : Errno) : Tool Unit :=
      Tool.complain 2 (shown ++ ": Cannot " ++ doing ++ ": " ++ number.text)
    let umask := (← Tool.invocation).umask
    let stated := m.header.mode?.getD 0o644
    let mode := if o.keepsMode then stated &&& 0o7777 else stated &&& 0o777 &&& (0o777 ^^^ umask)
    let time? : Option Timestamp :=
      if o.keepsTime then some (.ofParts ((m.header.modified?.getD 0 : Nat) : Int) 0) else none
    let target := Octets.ofBytes (m.linkName?.getD [])
    if o.toOutput then
      if !isDirectory m && m.linkName?.isNone then Tool.writeBytes 1 m.content
    else if isDirectory m then
      let bare := String.ofList (withoutSlashes place.toList)
      let p := Octets.path bare
      if ← namesDirectory place then
        if o.resetsDirectories then
          modify fun s => { s with waiting := (bare, some mode, time?) :: s.waiting }
      else if ← make o m bare (cannot "mkdir") (·.makeDirectory p) tries then
        modify fun s => { s with waiting := (bare, some mode, time?) :: s.waiting }
    else match m.header.kind with
      | .symbolicLink =>
        let _ ← make o m place (cannot ("create symlink to " ++ Quoting.plain target))
          (·.makeLink (Octets.path target) (Octets.path place)) tries
      | .hardLink =>
        let source := (placed o here (← tamed o linkTargets target)).getD target
        let first ← ownEntryOf source
        let second ← ownEntryOf place
        let isSame : Bool := match first, second with
          | .ok (_, a), .ok (_, b) => a.serial = b.serial
          | _, _ => false
        if !isSame then
          let _ ← make o m place (cannot ("hard link to " ++ Quoting.plain target))
            (·.shareEntry (Octets.path source) (Octets.path place)) tries
      | _ =>
        let p := Octets.path place
        let isMade ← make o m place (cannot "open")
          (fun files => (files.createNew p m.content mode).map (·.2)) tries
        if isMade then settle place (some mode) time?

def extractAll (o : Order) : Tool Unit := do
  let here ← placeOf o
  let p ← visitChosen o (extract o here)
  for (path, mode?, time?) in p.waiting do settle path mode? time?

/-! ### Comparing members with files -/

def compare (o : Order) (here : Octets) (m : Member) (name : Octets) : Archiver Unit := do
  let place := if here = "" || name.startsWith "/" then name else below here name
  let shown := Quoting.escaped name
  let differs (text : Octets) : Tool Unit := do
    Tool.print (shown ++ ": " ++ text ++ "\n")
    Tool.markAtLeast 1
  if o.told > 0 then tell o 2 m name
  match ← (ownEntryOf place : Tool _) with
  | .error number =>
    Tool.complain 1 (shown ++ ": Warning: Cannot stat: " ++ number.text)
  | .ok (_, e) =>
    let target := m.linkName?.getD []
    let moment := (m.header.modified?.getD 0 : Nat)
    match m.header.kind, e.node with
    | .symbolicLink, .link own => if own.bytes ≠ target then differs "Symlink differs"
    | .hardLink, _ =>
      let first := Octets.ofBytes target
      let other ← ownEntryOf first
      let isSame : Bool := match other with
        | .ok (_, other) => other.serial = e.serial
        | .error _ => false
      if !isSame then differs ("Not linked to " ++ Quoting.plain first)
    | kind, .directory =>
      if kind ≠ .directory then differs "File type differs"
      else if m.header.mode? ≠ some e.mode then differs "Mode differs"
    | .regular, .file content =>
      if m.header.mode? ≠ some e.mode then differs "Mode differs"
      if e.modified.seconds ≠ (moment : Int) then differs "Mod time differs"
      if content.size ≠ m.size then differs "Size differs"
      else if !e.readable then
        Tool.complain 2 (shown ++ ": Cannot open: " ++ Errno.accessDenied.text)
      else if content ≠ m.content then differs "Contents differ"
    | _, _ => differs "File type differs"

/-! ### The program -/

/-- The blocks of an archive's members, and what is known of them; a file that is missing has
none. -/
def readMembers (o : Order) : Tool (ByteArray × List (Octets × Nat)) := do
  if !(← ownEntryOf o.archive).isOk then return (ByteArray.empty, [])
  let bytes ← readBytes o
  let archive := Tar.read bytes
  if archive.members = [] && archive.fault?.isSome then
    giveUp "This does not look like a tar archive"
  let known := archive.members.map fun m => (nameOf m, m.header.modified?.getD 0)
  return (bytes.extract 0 archive.stop, known)

def blocksOfMember (m : Member) : ByteArray :=
  let target := m.linkName?.getD []
  (if target.length > 100 then Tar.longText .longLink target else ByteArray.empty) ++
    (if m.name.length > 100 then Tar.longText .longName m.name else ByteArray.empty) ++
    m.header.bytes ++ Tar.padded m.content

def perform (o : Order) : Tool Unit := do
  match o.task with
  | .create => storeBehind o ByteArray.empty []
  | .append | .update =>
    let (members, known) ← readMembers o
    storeBehind o members known
  | .concatenate =>
    let (members, _) ← readMembers o
    let more ← (wanted o).mapM fun archive => readMembers { o with archive := archive }
    let channel ← openArchive o
    writeArchive o channel (Tar.ended (more.foldl (fun all (own, _) => all ++ own) members))
  | .delete =>
    let bytes ← readBytes o
    let keep (m : Member) : Archiver Unit := do
      if !(← isChosen o (nameOf m)) then
        modify fun p => { p with blocks := p.blocks ++ blocksOfMember m }
    let ((), p) ← (visitFrom bytes keep (bytes.size / Tar.blockSize + 1) 0).run {}
    let channel ← openArchive o
    writeArchive o channel (Tar.ended p.blocks)
    complainOfMissing o p.found
  | .list =>
    let _ ← visitChosen o fun m _ => tell o 1 m (nameOf m)
  | .extract => extractAll o
  | .compare =>
    let here ← placeOf o
    let _ ← visitChosen o (compare o here)

end Archiving

def tar : Program := do
  Archiving.perform (← Archiving.readOrder)
  if (← get).status ≥ 2 then Tool.warn "Exiting with failure status due to previous errors"

end Launchpad.Machine.Programs
