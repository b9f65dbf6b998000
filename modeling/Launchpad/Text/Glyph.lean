/-!
The signs of a text that came as bytes. Most signs are characters; bytes that spell none are kept as
they are, so that two texts are equal only when their bytes are.
-/

namespace Launchpad.Text

inductive Glyph where
  | char (c : Char)
  /-- Bytes that start a character and are then cut short, or one byte that starts none. -/
  | broken (bytes : List UInt8)
  deriving DecidableEq, Repr, Inhabited

/-- The character that is shown for bytes which are no text. -/
def replacement : Char := '\uFFFD'

namespace Glyph

def char? : Glyph → Option Char
  | .char c => some c
  | .broken _ => none

def shown : Glyph → Char
  | .char c => c
  | .broken _ => replacement

def bytes : Glyph → List UInt8
  | .char c => (String.ofList [c]).toUTF8.toList
  | .broken bytes => bytes

def ofText (text : String) : List Glyph :=
  text.toList.map .char

def text (glyphs : List Glyph) : String :=
  String.ofList (glyphs.map shown)

@[simp]
theorem text_ofText (s : String) : text (ofText s) = s := by
  simp [text, ofText, Function.comp_def, shown]

end Glyph

/-- Whether bytes come before others or equal them, compared one by one. -/
def bytesLe : List UInt8 → List UInt8 → Bool
  | [], _ => true
  | _ :: _, [] => false
  | a :: as, b :: bs => if a = b then bytesLe as bs else a < b

end Launchpad.Text
