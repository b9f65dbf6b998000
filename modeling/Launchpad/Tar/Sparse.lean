import Launchpad.Tar.Fault
import Launchpad.Tar.Header

/-!
Files with gaps. An archive holds only the stretches of such a file that are no gap, one behind the
other; tables in its header and in blocks behind the header say where each belongs. A gap is read as
zeros.
-/

namespace Launchpad.Tar

/-- A stretch of a file that an archive holds. -/
structure Stretch where
  offset : Nat
  length : Nat
  deriving DecidableEq, Repr

namespace Stretch

/-- Read a stretch from two numbers of twelve bytes each. Where a number is missing there is no
stretch. -/
def ofBytes? (bytes : List UInt8) : Except Fault (Option Stretch) :=
  let offset := bytes.take 12
  let length := bytes.drop 12
  if offset.headD 0 = 0 || length.headD 0 = 0 then .ok none
  else match Header.octal? offset, Header.octal? length with
    | some offset, some length => .ok (some ⟨offset, length⟩)
    | _, _ => .error .badNumber

def table (block : Header) (start count : Nat) : Except Fault (List Stretch) := do
  let entries ← (List.range count).mapM fun k => ofBytes? (block.field (start + 24 * k) 24)
  return entries.filterMap id

/-- Whether the byte at some place of a block says that one more block of stretches follows. -/
def goesOn (block : Header) (place : Nat) : Bool :=
  block.field place 1 = [1]

/-- Read the blocks of stretches from an offset on; the answer holds the offset behind them. `fuel`
bounds their number. -/
def readBlocks (bytes : ByteArray) : Nat → Nat → Except Fault (List Stretch × Nat)
  | 0, _ => .error .shortBlock
  | fuel + 1, offset =>
    if offset + blockSize > bytes.size then .error .shortBlock
    else do
      let block : Header := ⟨bytes.extract offset (offset + blockSize)⟩
      let found ← table block 0 21
      if goesOn block 504 then
        let (more, after) ← readBlocks bytes fuel (offset + blockSize)
        return (found ++ more, after)
      else return (found, offset + blockSize)

/-- The stretches of the file that a header describes, and the offset at which their data starts. -/
def ofHeader (bytes : ByteArray) (h : Header) (offset : Nat) :
    Except Fault (List Stretch × Nat) := do
  let found ← table h 386 4
  if goesOn h 482 then
    let (more, after) ← readBlocks bytes (bytes.size / blockSize + 1) offset
    return (found ++ more, after)
  else return (found, offset)

end Stretch

/-- A file as far as its stretches have been put in place. -/
structure Unfolding where
  content : ByteArray := ByteArray.empty
  /-- Where the last stretch ends in the file. -/
  reached : Nat := 0
  /-- How much of the data has been used. -/
  used : Nat := 0

/-- Put a stretch in place. The data starts at `start` and has `size` bytes. -/
def Unfolding.add (bytes : ByteArray) (start size : Nat) (u : Unfolding) (s : Stretch) :
    Except Fault Unfolding :=
  if s.length ≠ 0 && u.used % blockSize ≠ 0 then .error .stretchesUnordered
  else if s.offset < u.reached then .error .stretchesUnordered
  else if u.used + s.length > size then .error .stretchesMismatch
  else
    let gap := ByteArray.mk (Array.replicate (s.offset - u.reached) 0)
    let data := bytes.extract (start + u.used) (start + u.used + s.length)
    .ok ⟨u.content ++ gap ++ data, s.offset + s.length, u.used + s.length⟩

/-- Read the file with gaps that a header describes, the bytes behind the header starting at an
offset: its content, its size, and how many bytes its blocks of stretches take up. -/
def readSparse (bytes : ByteArray) (h : Header) (offset size : Nat) :
    Except Fault (ByteArray × Nat × Nat) := do
  if !h.isGnu then .error .gapsUnsupported
  else
    let (stretches, start) ← Stretch.ofHeader bytes h offset
    let u ← stretches.foldlM (Unfolding.add bytes start size) {}
    match Header.octal? (h.field 483 12) with
    | none => .error .badNumber
    | some stated =>
      if u.reached ≠ stated || u.used ≠ size then .error .stretchesMismatch
      else return (u.content, u.reached, start - offset)

end Launchpad.Tar
