import Launchpad.Text.Glyph

/-!
Reading bytes as UTF-8. Bytes that spell no character fall into signs of their own: one for each
longest run that starts a character and is then cut short, and one for each byte that cannot start
one. The strict reading refuses a text with such a sign; the lenient one shows a replacement
character for it.
-/

namespace Launchpad.Text

/-- What the first byte of a character announces: how many bytes follow it, and the bounds of the
byte right after it. -/
structure Lead where
  following : Nat
  low : UInt8
  high : UInt8

/-- Read a first byte; a byte that starts no character announces nothing. -/
def Lead.ofByte? (b : UInt8) : Option Lead :=
  if b < 0x80 then some ⟨0, 0x80, 0xBF⟩
  else if 0xC2 ≤ b && b ≤ 0xDF then some ⟨1, 0x80, 0xBF⟩
  else if b == 0xE0 then some ⟨2, 0xA0, 0xBF⟩
  else if b == 0xED then some ⟨2, 0x80, 0x9F⟩
  else if 0xE1 ≤ b && b ≤ 0xEF then some ⟨2, 0x80, 0xBF⟩
  else if b == 0xF0 then some ⟨3, 0x90, 0xBF⟩
  else if 0xF1 ≤ b && b ≤ 0xF3 then some ⟨3, 0x80, 0xBF⟩
  else if b == 0xF4 then some ⟨3, 0x80, 0x8F⟩
  else none

/-- The longest run of following bytes that fits an announcement: only the first of them has
bounds of its own. -/
def Lead.run (lead : Lead) : List UInt8 → List UInt8 :=
  go lead.following lead.low lead.high
where
  go : Nat → UInt8 → UInt8 → List UInt8 → List UInt8
    | 0, _, _, _ => []
    | _, _, _, [] => []
    | n + 1, low, high, b :: rest =>
      if low ≤ b && b ≤ high then b :: go n 0x80 0xBF rest else []

/-- The code point spelled by a first byte and the bytes after it. -/
def codePoint (first : UInt8) (following : List UInt8) : Nat :=
  let own := match following.length with
    | 0 => first.toNat
    | 1 => first.toNat % 0x20
    | 2 => first.toNat % 0x10
    | _ => first.toNat % 0x08
  following.foldl (fun n b => n * 0x40 + b.toNat % 0x40) own

/-- The sign that starts with a byte, and how many of the bytes after it belong to it. -/
def nextGlyph (first : UInt8) (rest : List UInt8) : Glyph × Nat :=
  match Lead.ofByte? first with
  | none => (.broken [first], 0)
  | some lead =>
    let run := lead.run rest
    if run.length = lead.following then (.char (Char.ofNat (codePoint first run)), run.length)
    else (.broken (first :: run), run.length)

def readGlyphs : List UInt8 → List Glyph
  | [] => []
  | first :: rest =>
    let next := nextGlyph first rest
    next.1 :: readGlyphs (rest.drop next.2)
termination_by bytes => bytes.length
decreasing_by
  simp only [List.length_drop, List.length_cons]
  omega

/-- The strict reading: a text, unless some bytes spell no character. -/
def decode? (bytes : ByteArray) : Option String :=
  (readGlyphs bytes.toList).mapM Glyph.char? |>.map String.ofList

/-- The lenient reading: bytes that spell no character become a replacement character. -/
def decodeLenient (bytes : ByteArray) : String :=
  Glyph.text (readGlyphs bytes.toList)

end Launchpad.Text
