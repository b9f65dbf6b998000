/-!
Digests: numbers of a fixed size that stand for texts of any length. The words of a digest are
natural numbers below a power of two; the constants of the second family are digits of the roots of
prime numbers, and are calculated here.
-/

namespace Launchpad.Digest

def twoTo (n : Nat) : Nat := Nat.pow 2 n

/-- Words of so many bits. -/
structure Words where
  width : Nat

namespace Words

def cut (w : Words) (n : Nat) : Nat := n % twoTo w.width

def rotateLeft (w : Words) (k n : Nat) : Nat :=
  w.cut (n <<< k) ||| (n >>> (w.width - k))

def rotateRight (w : Words) (k n : Nat) : Nat := w.rotateLeft (w.width - k) n

/-- Turn every bit of a word into its opposite. -/
def complement (w : Words) (n : Nat) : Nat := n ^^^ (twoTo w.width - 1)

end Words

/-- The number that bytes stand for, the first of them counting most. -/
def bigEndian (bytes : List UInt8) : Nat :=
  bytes.foldl (fun n b => n * 256 + b.toNat) 0

/-- The number that bytes stand for, the last of them counting most. -/
def littleEndian (bytes : List UInt8) : Nat := bigEndian bytes.reverse

/-- A number by so many bytes, the first of them counting most. -/
def bytesOf (count n : Nat) : List UInt8 :=
  (List.range count).reverse.map fun k => (n >>> (8 * k)).toUInt8

/-- A text with what stands behind it before it is digested: a mark, zeros up to a whole block, and
the number of its bits. -/
def padded (block lengthBytes : Nat) (lastCountsMost : Bool) (bytes : ByteArray) : ByteArray :=
  let zeros := (block - (bytes.size + 1 + lengthBytes) % block) % block
  let length := bytesOf lengthBytes (8 * bytes.size)
  let length := if lastCountsMost then length.reverse else length
  bytes ++ ⟨(0x80 :: List.replicate zeros 0 ++ length).toArray⟩

def blocksOf (block word : Nat) (lastCountsMost : Bool) (bytes : ByteArray) : List (Array Nat) :=
  (List.range (bytes.size / block)).map fun b =>
    ((List.range (block / word)).map fun k =>
      let start := b * block + k * word
      let own := (bytes.extract start (start + word)).toList
      if lastCountsMost then littleEndian own else bigEndian own).toArray

def addStates (w : Words) (a b : List Nat) : List Nat :=
  (a.zip b).map fun (x, y) => w.cut (x + y)

/-- Words of 32 bits. -/
def short : Words := ⟨32⟩

/-- The additive constants of the oldest digest. -/
def sineDigits : Array Nat := #[
  0xd76aa478, 0xe8c7b756, 0x242070db, 0xc1bdceee, 0xf57c0faf, 0x4787c62a, 0xa8304613, 0xfd469501,
  0x698098d8, 0x8b44f7af, 0xffff5bb1, 0x895cd7be, 0x6b901122, 0xfd987193, 0xa679438e, 0x49b40821,
  0xf61e2562, 0xc040b340, 0x265e5a51, 0xe9b6c7aa, 0xd62f105d, 0x02441453, 0xd8a1e681, 0xe7d3fbc8,
  0x21e1cde6, 0xc33707d6, 0xf4d50d87, 0x455a14ed, 0xa9e3e905, 0xfcefa3f8, 0x676f02d9, 0x8d2a4c8a,
  0xfffa3942, 0x8771f681, 0x6d9d6122, 0xfde5380c, 0xa4beea44, 0x4bdecfa9, 0xf6bb4b60, 0xbebfbc70,
  0x289b7ec6, 0xeaa127fa, 0xd4ef3085, 0x04881d05, 0xd9d4d039, 0xe6db99e5, 0x1fa27cf8, 0xc4ac5665,
  0xf4292244, 0x432aff97, 0xab9423a7, 0xfc93a039, 0x655b59c3, 0x8f0ccc92, 0xffeff47d, 0x85845dd1,
  0x6fa87e4f, 0xfe2ce6e0, 0xa3014314, 0x4e0811a1, 0xf7537e82, 0xbd3af235, 0x2ad7d2bb, 0xeb86d391]

/-- How far the words are turned in each of the four parts of a round. -/
def turns : Array Nat := #[7, 12, 17, 22, 5, 9, 14, 20, 4, 11, 16, 23, 6, 10, 15, 21]

def foldBlock5 (state : List Nat) (words : Array Nat) : List Nat :=
  let w := short
  let final := (List.range 64).foldl (fun (s : Nat × Nat × Nat × Nat) k =>
    let (a, b, c, d) := s
    let (f, g) :=
      if k < 16 then ((b &&& c) ||| (w.complement b &&& d), k)
      else if k < 32 then ((d &&& b) ||| (w.complement d &&& c), (5 * k + 1) % 16)
      else if k < 48 then (b ^^^ c ^^^ d, (3 * k + 5) % 16)
      else (c ^^^ (b ||| w.complement d), (7 * k) % 16)
    let sum := w.cut (f + a + (sineDigits[k]?).getD 0 + (words[g]?).getD 0)
    let turn := (turns[k / 16 * 4 + k % 4]?).getD 0
    (d, w.cut (b + w.rotateLeft turn sum), b, c))
    (state.headD 0, (state[1]?).getD 0, (state[2]?).getD 0, (state[3]?).getD 0)
  addStates w state [final.1, final.2.1, final.2.2.1, final.2.2.2]

def firstState : List Nat := [0x67452301, 0xefcdab89, 0x98badcfe, 0x10325476]

/-- The digest of 128 bits. -/
def md5 (bytes : ByteArray) : List UInt8 :=
  let state := (blocksOf 64 4 true (padded 64 8 true bytes)).foldl foldBlock5 firstState
  state.flatMap fun n => (bytesOf 4 n).reverse

/-- One block of the first digest of the newer kind. -/
def foldBlock1 (state : List Nat) (words : Array Nat) : List Nat :=
  let w := short
  let schedule := (List.range 64).foldl (fun (all : Array Nat) k =>
    let back (j : Nat) : Nat := (all[k + 16 - j]?).getD 0
    all.push (w.rotateLeft 1 (back 3 ^^^ back 8 ^^^ back 14 ^^^ back 16))) words
  let final := (List.range 80).foldl (fun (s : List Nat) k =>
    match s with
    | [a, b, c, d, e] =>
      let (f, constant) :=
        if k < 20 then ((b &&& c) ||| (w.complement b &&& d), 0x5a827999)
        else if k < 40 then (b ^^^ c ^^^ d, 0x6ed9eba1)
        else if k < 60 then ((b &&& c) ||| (b &&& d) ||| (c &&& d), 0x8f1bbcdc)
        else (b ^^^ c ^^^ d, 0xca62c1d6)
      let next := w.cut (w.rotateLeft 5 a + f + e + constant + (schedule[k]?).getD 0)
      [next, a, w.rotateLeft 30 b, c, d]
    | s => s) state
  addStates w state final

/-- The digest of 160 bits. -/
def sha1 (bytes : ByteArray) : List UInt8 :=
  let state := (blocksOf 64 4 false (padded 64 8 false bytes)).foldl foldBlock1
    (firstState ++ [0xc3d2e1f0])
  state.flatMap (bytesOf 4)

/-- The greatest number whose power is not above another; so many bits are tried. -/
def rootOf (power bits n : Nat) : Nat :=
  (List.range bits).reverse.foldl (fun r k =>
    let next := r + twoTo k
    if Nat.pow next power ≤ n then next else r) 0

def primes : List Nat :=
  (List.range 410).filter fun n => n ≥ 2 && (List.range 21).all fun d => d < 2 || n ≤ d || n % d ≠ 0

/-- The first bits behind the point of a root of a number. -/
def rootDigits (power width n : Nat) : Nat :=
  rootOf power (width + 8) (n * twoTo (width * power)) % twoTo width

/-- A member of the second family. -/
structure Member where
  words : Words
  rounds : Nat
  /-- How far words are turned or moved: for the state, and for the schedule. -/
  upper : Nat × Nat × Nat
  lower : Nat × Nat × Nat
  early : Nat × Nat × Nat
  late : Nat × Nat × Nat
  start : List Nat
  /-- How many bytes of the state are the digest. -/
  size : Nat

namespace Member

/-- The additive constants: digits of the third roots of prime numbers. -/
def constants (m : Member) : Array Nat :=
  ((primes.take m.rounds).map (rootDigits 3 m.words.width)).toArray

/-- Three turns of a word, put together. -/
def mix (m : Member) (turns : Nat × Nat × Nat) (n : Nat) : Nat :=
  m.words.rotateRight turns.1 n ^^^ m.words.rotateRight turns.2.1 n ^^^
    m.words.rotateRight turns.2.2 n

/-- Two turns and a move of a word, put together. -/
def spread (m : Member) (turns : Nat × Nat × Nat) (n : Nat) : Nat :=
  m.words.rotateRight turns.1 n ^^^ m.words.rotateRight turns.2.1 n ^^^ (n >>> turns.2.2)

def foldBlock (m : Member) (constants : Array Nat) (state : List Nat) (words : Array Nat) :
    List Nat :=
  let w := m.words
  let schedule := (List.range (m.rounds - 16)).foldl (fun (all : Array Nat) k =>
    let back (j : Nat) : Nat := (all[k + 16 - j]?).getD 0
    all.push (w.cut (back 16 + m.spread m.early (back 15) + back 7 + m.spread m.late (back 2))))
    words
  let final := (List.range m.rounds).foldl (fun (s : List Nat) k =>
    match s with
    | [a, b, c, d, e, f, g, h] =>
      let choice := (e &&& f) ^^^ (w.complement e &&& g)
      let first := h + m.mix m.lower e + choice + (constants[k]?).getD 0 + (schedule[k]?).getD 0
      let majority := (a &&& b) ^^^ (a &&& c) ^^^ (b &&& c)
      [w.cut (first + m.mix m.upper a + majority), a, b, c, w.cut (d + first), e, f, g]
    | s => s) state
  addStates w state final

def digest (m : Member) (bytes : ByteArray) : List UInt8 :=
  let word := m.words.width / 8
  let constants := m.constants
  let state := (blocksOf (16 * word) word false (padded (16 * word) (2 * word) false bytes)).foldl
    (m.foldBlock constants) m.start
  (state.flatMap (bytesOf word)).take m.size

end Member

/-- The digest of 256 bits. -/
def sha256 : Member where
  words := short
  rounds := 64
  upper := (2, 13, 22)
  lower := (6, 11, 25)
  early := (7, 18, 3)
  late := (17, 19, 10)
  start := (primes.take 8).map (rootDigits 2 32)
  size := 32

/-- The digest of 512 bits. -/
def sha512 : Member where
  words := ⟨64⟩
  rounds := 80
  upper := (28, 34, 39)
  lower := (14, 18, 41)
  early := (1, 8, 7)
  late := (19, 61, 6)
  start := (primes.take 8).map (rootDigits 2 64)
  size := 64

/-- The state that the shorter members begin with: digits of the roots of further prime numbers. -/
def laterStart : List Nat := ((primes.drop 8).take 8).map (rootDigits 2 64)

/-- The digest of 384 bits. -/
def sha384 : Member := { sha512 with start := laterStart, size := 48 }

/-- The digest of 224 bits. -/
def sha224 : Member :=
  { sha256 with start := laterStart.map (· % twoTo 32), size := 28 }

/-- A digest by hexadecimal digits. -/
def hex (bytes : List UInt8) : String :=
  String.ofList (bytes.flatMap fun b =>
    [b.toNat / 16, b.toNat % 16].map fun d =>
      Char.ofNat (if d < 10 then '0'.toNat + d else 'a'.toNat + d - 10))

def checkStep (n : Nat) (b : UInt8) : Nat :=
  (List.range 8).foldl (fun n _ =>
    if n.testBit 31 then short.cut (n <<< 1) ^^^ 0x04c11db7 else n <<< 1)
    (n ^^^ (b.toNat <<< 24))

/-- The bytes of a length that count, the last of them counting most. `fuel` bounds their
number. -/
def lengthBytes : Nat → Nat → List UInt8
  | 0, _ => []
  | fuel + 1, n => if n = 0 then [] else n.toUInt8 :: lengthBytes fuel (n / 256)

/-- The remainder of a text and its length after a division without carries. -/
def check (bytes : ByteArray) : Nat :=
  short.complement ((bytes.toList ++ lengthBytes 16 bytes.size).foldl checkStep 0)

def turnedSum (bytes : ByteArray) : Nat :=
  bytes.toList.foldl (fun n b => ((n >>> 1) + (n % 2) * 32768 + b.toNat) % 65536) 0

/-- The sum of the bytes, its upper half added to the lower. -/
def foldedSum (bytes : ByteArray) : Nat :=
  let s := short.cut (bytes.toList.foldl (fun n b => n + b.toNat) 0)
  let r := s % 65536 + s / 65536
  r % 65536 + r / 65536

end Launchpad.Digest
