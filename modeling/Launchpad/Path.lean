import Launchpad.Text.Separated
import Launchpad.Text.Utf8

/-!
Paths as they are held and printed. A path is a text that is never normalised: joining only puts a
separator where one is needed, so `./a` and `a` are different paths that may name one file. What a
path names step by step is its list of names, in which repeated separators and single dots leave no
trace. A path may hold bytes that spell no character; they count, although printing cannot show
them.
-/

namespace Launchpad

open Text (Glyph)

abbrev Name := List Glyph

namespace Name

def ofText (text : String) : Name := Glyph.ofText text

def text (name : Name) : String := Glyph.text name

def bytes (name : Name) : List UInt8 := name.flatMap Glyph.bytes

def up : Name := [.char '.', .char '.']

def le (a b : Name) : Bool := Text.bytesLe a.bytes b.bytes

end Name

/-- A path, as the text that was given. -/
structure Path where
  glyphs : List Glyph
  deriving DecidableEq, Repr, Inhabited

namespace Path

def ofText (text : String) : Path := ⟨Glyph.ofText text⟩

def ofBytes (bytes : List UInt8) : Path := ⟨Text.readGlyphs bytes⟩

def text (p : Path) : String := Glyph.text p.glyphs

@[simp]
theorem text_ofText (s : String) : (ofText s).text = s :=
  Glyph.text_ofText s

def bytes (p : Path) : List UInt8 := Name.bytes p.glyphs

def separator : Glyph := .char '/'

/-- The path without any signs. -/
def isEmpty (p : Path) : Bool := p.glyphs.isEmpty

/-- A path is absolute when it starts at the root. -/
def isAbsolute (p : Path) : Bool :=
  p.glyphs.head? = some separator

/-- Whether a path ends behind a separator, and so can only name a directory. -/
def endsInSlash (p : Path) : Bool :=
  p.glyphs.getLast? = some separator

/-- Put a path behind another. An absolute path replaces what stands before it. -/
def join (base p : Path) : Path :=
  if p.isAbsolute then p
  else if base.isEmpty || base.endsInSlash then ⟨base.glyphs ++ p.glyphs⟩
  else ⟨base.glyphs ++ separator :: p.glyphs⟩

/-- A piece between separators names a step unless it is empty or a single dot. -/
def isStep (piece : Name) : Bool :=
  piece ≠ [] && piece ≠ [.char '.']

/-- The names that a path goes through, in order; `..` is kept as a name. -/
def names (p : Path) : List Name :=
  (Text.splitOn separator p.glyphs).filter isStep

/-- The pieces between separators, single dots included: what a look-up goes through. -/
def pieces (p : Path) : List Name :=
  (Text.splitOn separator p.glyphs).filter (· ≠ [])

/-- The path without the separators at its end; the root keeps its own. -/
def withoutSlash (p : Path) : Path :=
  if p.pieces = [] then p
  else ⟨(p.glyphs.reverse.dropWhile (· = separator)).reverse⟩

/-- The offsets at which the steps of a list of pieces end, the first piece starting at `offset`. -/
def stepEnds (offset : Nat) : List Name → List Nat
  | [] => []
  | piece :: pieces =>
    let rest := stepEnds (offset + piece.length + 1) pieces
    if isStep piece then (offset + piece.length) :: rest else rest

/-- The offsets at which the parts of a path end. Beside the steps, the root and a leading single
dot are parts of their own. -/
def partEnds (p : Path) : List Nat :=
  let pieces := Text.splitOn separator p.glyphs
  let leading := match pieces with
    | [.char '.'] :: _ => [1]
    | [] :: _ :: _ => [1]
    | _ => []
  leading ++ stepEnds 0 pieces

/-- The path without its last part; the empty path and the root have none. -/
def parent? (p : Path) : Option Path :=
  let ends := p.partEnds
  if ends = [] then none
  else if ends.length = 1 && p.isAbsolute then none
  else some ⟨p.glyphs.take ((ends.dropLast.getLast?).getD 0)⟩

/-- The last name of a path, unless it is `..`. -/
def fileName? (p : Path) : Option Name :=
  p.names.getLast?.filter (· ≠ Name.up)

/-- What follows the last dot of a file name, when something stands before that dot. -/
def extensionOf? (name : Name) : Option Name :=
  let reversed := name.reverse
  match reversed.dropWhile (· ≠ .char '.') with
  | .char '.' :: _ :: _ => some (reversed.takeWhile (· ≠ .char '.')).reverse
  | _ => none

def extension? (p : Path) : Option Name :=
  p.fileName?.bind extensionOf?

end Path

end Launchpad
