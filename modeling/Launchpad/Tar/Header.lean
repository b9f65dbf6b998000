import Launchpad.Tar.Settings
import Launchpad.Text.Blank
import Launchpad.Text.Utf8

/-!
The header block of a tar member. A header has 512 bytes with fields at fixed places; two signatures
tell the layouts apart that extend the oldest one. Numbers are octal digits, or, when the first bit
of the field is set, plain binary.
-/

namespace Launchpad.Tar

/-- The size of a header, and the unit to which contents are padded. -/
def blockSize : Nat := 512

inductive Kind where
  | regular
  | hardLink
  | symbolicLink
  | directory
  | sparse
  /-- Settings for all later members. -/
  | globalSettings
  /-- Settings for the next member. -/
  | localSettings
  /-- The name of the next member. -/
  | longName
  /-- The link target of the next member. -/
  | longLink
  deriving DecidableEq, Repr

/-- The kind that a type byte stands for; a byte without a meaning stands for a regular file. -/
def Kind.ofByte (b : UInt8) : Kind :=
  if b = '1'.toUInt8 then .hardLink
  else if b = '2'.toUInt8 then .symbolicLink
  else if b = '5'.toUInt8 then .directory
  else if b = 'S'.toUInt8 then .sparse
  else if b = 'g'.toUInt8 then .globalSettings
  else if b = 'x'.toUInt8 then .localSettings
  else if b = 'L'.toUInt8 then .longName
  else if b = 'K'.toUInt8 then .longLink
  else .regular

structure Header where
  bytes : ByteArray
  deriving Inhabited

namespace Header

def field (h : Header) (start length : Nat) : List UInt8 :=
  (h.bytes.extract start (start + length)).toList

def untilNul (bytes : List UInt8) : List UInt8 :=
  bytes.takeWhile (· ≠ 0)

/-- A block of zeros, which ends an archive. -/
def isZero (h : Header) : Bool :=
  h.bytes.toList.all (· = 0)

/-- The value of digits to base eight, below two to the power of 64. -/
def octalDigits? (cs : List Char) : Option Nat :=
  if cs = [] then none
  else
    let step (value : Option Nat) (c : Char) : Option Nat :=
      value.bind fun n =>
        if '0' ≤ c && c ≤ '7' then
          let next := n * 8 + (c.toNat - '0'.toNat)
          if next < wordLimit then some next else none
        else none
    cs.foldl step (some 0)

/-- A number in octal digits, with white space around it and perhaps a plus sign. -/
def octal? (bytes : List UInt8) : Option Nat := do
  let text ← Text.decode? ⟨(untilNul bytes).toArray⟩
  match Text.trimList text.toList with
  | '+' :: digits => octalDigits? digits
  | digits => octalDigits? digits

/-- A number, in octal digits or in binary. Of a binary number only the last eight bytes count, and
in a field of eight bytes the bit that marks it is not part of it. -/
def number? (bytes : List UInt8) : Option Nat :=
  match bytes with
  | [] => none
  | first :: rest =>
    if first < 0x80 then octal? bytes
    else
      let counted :=
        if bytes.length = 8 then (first &&& 0x7F) :: rest else bytes.drop (bytes.length - 8)
      some (counted.foldl (fun n b => n * 256 + b.toNat) 0)

def kind (h : Header) : Kind :=
  Kind.ofByte ((h.field 156 1).headD 0)

/-- The layout with a second name field. -/
def isUstar (h : Header) : Bool :=
  h.field 257 8 = "ustar".toUTF8.toList ++ [0, '0'.toUInt8, '0'.toUInt8]

/-- The layout with long names in members of their own. -/
def isGnu (h : Header) : Bool :=
  h.field 257 8 = "ustar  ".toUTF8.toList ++ [0]

/-- Only the two extended layouts may describe a later member. -/
def isExtended (h : Header) : Bool :=
  h.isUstar || h.isGnu

/-- The sum of all bytes, those of the field for the sum itself counted as spaces. -/
def sum (h : Header) : Nat :=
  let total (bytes : List UInt8) := bytes.foldl (fun n b => n + b.toNat) 0
  total (h.field 0 148) + total (h.field 156 356) + 8 * 32

def sumHolds (h : Header) : Bool :=
  octal? (h.field 148 8) = some h.sum

def size? (h : Header) : Option Nat := number? (h.field 124 12)
def mode? (h : Header) : Option Nat := octal? (h.field 100 8)
def modified? (h : Header) : Option Nat := number? (h.field 136 12)

/-- The name of the member, with the second name field in front where the layout has it. -/
def name (h : Header) : List UInt8 :=
  let own := untilNul (h.field 0 100)
  let leading := untilNul (h.field 345 155)
  if h.isUstar && leading ≠ [] then leading ++ ['/'.toUInt8] ++ own else own

/-- The target of a link; a field that starts with NUL states none. -/
def linkName? (h : Header) : Option (List UInt8) :=
  let target := untilNul (h.field 157 100)
  if target = [] then none else some target

end Header

end Launchpad.Tar
