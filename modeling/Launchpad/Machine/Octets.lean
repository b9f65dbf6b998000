import Launchpad.Path

/-!
Texts as programs see them. A program knows bytes and no characters, so a text of the machine is a
string in which each character stands for the byte of its number. What comes from outside is turned
into such a text, and what goes outside is turned back.
-/

namespace Launchpad.Machine

abbrev Octets := String

namespace Octets

def ofBytes (bytes : List UInt8) : Octets :=
  String.ofList (bytes.map fun b => Char.ofNat b.toNat)

def ofArray (bytes : ByteArray) : Octets := ofBytes bytes.toList

def byte (c : Char) : UInt8 := c.toNat.toUInt8

def bytes (text : Octets) : List UInt8 := text.toList.map byte

def array (text : Octets) : ByteArray := ⟨(bytes text).toArray⟩

def ofText (text : String) : Octets := ofArray text.toUTF8

def shown (text : Octets) : String := Text.decodeLenient (array text)

def glyphs (text : Octets) : List Text.Glyph := Text.readGlyphs (bytes text)

def ofGlyphs (glyphs : List Text.Glyph) : Octets := ofBytes (Name.bytes glyphs)

def path (text : Octets) : Path := ⟨glyphs text⟩

def ofPath (p : Path) : Octets := ofGlyphs p.glyphs

end Octets

end Launchpad.Machine
