import Launchpad.Tar.Settings
import Launchpad.Tar.Sparse

/-!
The members of an archive, in order. Long names and settings are read into the member that they
describe. Reading ends at a block of zeros, or where the bytes end between two members; it breaks
off where the bytes keep to no form, and the members before that place stand.
-/

namespace Launchpad.Tar

structure Member where
  header : Header
  name : List UInt8
  linkName? : Option (List UInt8)
  /-- The size that is stated. -/
  size : Nat
  /-- The content; shorter than stated when the archive ends within it. -/
  content : ByteArray
  deriving Inhabited

/-- An archive: its members, and the fault that broke reading off, if one did. -/
structure Archive where
  members : List Member
  fault? : Option Fault
  /-- The offset of the block at which reading ended. -/
  stop : Nat
  deriving Inhabited

/-- What was said so far about the next member. -/
structure Description where
  longName? : Option (List UInt8) := none
  longLink? : Option (List UInt8) := none
  settings? : Option (List UInt8) := none

namespace Description

/-- Nothing was said yet. -/
def isEmpty (d : Description) : Bool :=
  d.longName?.isNone && d.longLink?.isNone && d.settings?.isNone

/-- A long text may end in one NUL, which is not part of it. -/
def withoutNul (bytes : List UInt8) : List UInt8 :=
  if bytes.getLast? = some 0 then bytes.dropLast else bytes

/-- The name of a member: a long name counts before a setting, and a setting before the header. -/
def name (d : Description) (h : Header) : List UInt8 :=
  match d.longName? with
  | some bytes => withoutNul bytes
  | none => (d.settings?.bind (setting? "path")).getD h.name

/-- The link target of a member, in the same order. -/
def linkName? (d : Description) (h : Header) : Option (List UInt8) :=
  match d.longLink? with
  | some bytes => some (withoutNul bytes)
  | none => (d.settings?.bind (setting? "linkpath")) <|> h.linkName?

/-- The size of a member: what a setting states, else what the header states. -/
def size (d : Description) (stated : Nat) : Nat :=
  (d.settings?.bind (numericSetting? "size")).getD stated

/-- Add what a describing member says; `none` when the same was said before. -/
def add? (d : Description) (kind : Kind) (content : List UInt8) : Option Description :=
  match kind with
  | .longName => if d.longName?.isSome then none else some { d with longName? := some content }
  | .longLink => if d.longLink?.isSome then none else some { d with longLink? := some content }
  | _ => if d.settings?.isSome then none else some { d with settings? := some content }

end Description

/-- A member that only describes the next one. -/
def describes (h : Header) : Bool :=
  h.isExtended && (h.kind = .longName || h.kind = .longLink || h.kind = .localSettings)

/-- Read from an offset on. `fuel` bounds the number of headers. -/
def readFuel (bytes : ByteArray) : Nat → Nat → Description → Archive
  | 0, offset, _ => ⟨[], none, offset⟩
  | fuel + 1, offset, said =>
    if offset > bytes.size then ⟨[], some .shortPadding, offset⟩
    else if offset = bytes.size then
      ⟨[], if said.isEmpty then none else some .nothingDescribed, offset⟩
    else if offset + blockSize > bytes.size then ⟨[], some .shortBlock, offset⟩
    else
      let header : Header := ⟨bytes.extract offset (offset + blockSize)⟩
      if header.isZero then
        ⟨[], if said.isEmpty then none else some .nothingDescribed, offset⟩
      else if !header.sumHolds then ⟨[], some .badSum, offset⟩
      else match header.size? with
        | none => ⟨[], some .badNumber, offset⟩
        | some stated =>
          let size := if describes header then stated else said.size stated
          let start := offset + blockSize
          let next := start + (size + (blockSize - 1)) / blockSize * blockSize
          if next ≥ wordLimit then ⟨[], some .sizeOverflow, offset⟩
          else
            let content := bytes.extract start (start + size)
            if describes header then
              match said.add? header.kind content.toList with
              | none => ⟨[], some .doubleDescription, offset⟩
              | some said => readFuel bytes fuel next said
            else
              let unfolded : Except Fault (ByteArray × Nat × Nat) :=
                if header.kind = .sparse then readSparse bytes header start size
                else .ok (content, size, 0)
              match unfolded with
              | .error fault => ⟨[], some fault, offset⟩
              | .ok (content, size, extra) =>
                let member : Member :=
                  ⟨header, said.name header, said.linkName? header, size, content⟩
                let rest := readFuel bytes fuel (next + extra) {}
                { rest with members := member :: rest.members }

def readFrom (bytes : ByteArray) (offset : Nat) : Archive :=
  readFuel bytes (bytes.size / blockSize + 2) offset {}

def read (bytes : ByteArray) : Archive := readFrom bytes 0

end Launchpad.Tar
