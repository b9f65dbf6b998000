import Launchpad.Tar.Header

/-!
The blocks of an archive that is written: a header for each member with its content behind it, and
blocks of zeros at the end. Numbers are written as octal digits where they fit and in binary where
they do not; a name that is too long for its field gets a member of its own in front.
-/

namespace Launchpad.Tar

structure Statement where
  name : List UInt8
  kind : Kind := .regular
  /-- The content of a link: where it leads. -/
  target : List UInt8 := []
  mode : Nat := 0o644
  userNumber : Nat := 0
  groupNumber : Nat := 0
  user : List UInt8 := []
  group : List UInt8 := []
  /-- Seconds since the beginning of 1970. -/
  modified : Nat := 0
  size : Nat := 0

def Kind.byte (k : Kind) : UInt8 :=
  match k with
  | .regular => '0'.toUInt8
  | .hardLink => '1'.toUInt8
  | .symbolicLink => '2'.toUInt8
  | .directory => '5'.toUInt8
  | .sparse => 'S'.toUInt8
  | .globalSettings => 'g'.toUInt8
  | .localSettings => 'x'.toUInt8
  | .longName => 'L'.toUInt8
  | .longLink => 'K'.toUInt8

/-- A text in a field, cut or filled up with NULs. -/
def textField (width : Nat) (text : List UInt8) : List UInt8 :=
  text.take width ++ List.replicate (width - text.length) 0

/-- The digits of a number in some base, least significant first. -/
def lowDigits (base : Nat) : Nat → Nat → List Nat
  | 0, _ => []
  | count + 1, n => n % base :: lowDigits base count (n / base)

/-- So many octal digits of a number. -/
def octalDigits (count n : Nat) : List UInt8 :=
  ((lowDigits 8 count n).map fun d => (Char.ofNat ('0'.toNat + d)).toUInt8).reverse

/-- A number in a field: octal digits and a NUL, or binary behind a byte that says so. -/
def numberField (width n : Nat) : List UInt8 :=
  if n / Nat.pow 8 (width - 1) = 0 then octalDigits (width - 1) n ++ [0]
  else 0x80 :: ((lowDigits 256 (width - 1) n).map Nat.toUInt8).reverse

namespace Statement

/-- The header of a statement but for its sum, for which spaces stand. -/
def unsummed (s : Statement) : List UInt8 :=
  textField 100 s.name ++ numberField 8 s.mode ++ numberField 8 s.userNumber ++
    numberField 8 s.groupNumber ++ numberField 12 s.size ++ numberField 12 s.modified ++
    List.replicate 8 ' '.toUInt8 ++ [s.kind.byte] ++ textField 100 s.target ++
    "ustar  ".toUTF8.toList ++ [0] ++ textField 32 s.user ++ textField 32 s.group ++
    List.replicate 183 0

def header (s : Statement) : Header :=
  let bytes := s.unsummed
  let sum := bytes.foldl (fun n b => n + b.toNat) 0
  ⟨⟨(bytes.take 148 ++ octalDigits 6 sum ++ [0, ' '.toUInt8] ++ bytes.drop 156).toArray⟩⟩

end Statement

def padded (content : ByteArray) : ByteArray :=
  let missing := (blockSize - content.size % blockSize) % blockSize
  content ++ ⟨Array.replicate missing 0⟩

/-- The member that holds a text which is too long for a header. -/
def longText (kind : Kind) (text : List UInt8) : ByteArray :=
  let s : Statement :=
    { name := "././@LongLink".toUTF8.toList, kind := kind, size := text.length + 1
      user := "root".toUTF8.toList, group := "root".toUTF8.toList }
  s.header.bytes ++ padded ⟨(text ++ [0]).toArray⟩

/-- The blocks of a member: those for a long name and a long target, its header, its content. -/
def Statement.blocks (s : Statement) (content : ByteArray) : ByteArray :=
  (if s.target.length > 100 then longText .longLink s.target else ByteArray.empty) ++
    (if s.name.length > 100 then longText .longName s.name else ByteArray.empty) ++
    s.header.bytes ++ padded content

/-- How many bytes are written at once; an archive is filled up to a multiple of them. -/
def recordSize : Nat := 20 * blockSize

/-- Members with the end of the archive behind them: two blocks of zeros or more. -/
def ended (members : ByteArray) : ByteArray :=
  let size := members.size + 2 * blockSize
  let missing := (recordSize - size % recordSize) % recordSize
  members ++ ⟨Array.replicate (2 * blockSize + missing) 0⟩

end Launchpad.Tar
