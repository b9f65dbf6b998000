import Launchpad.Machine.Octets
import Launchpad.Text.Printable

/-!
How programs show texts in their messages: between quotes that a shell understands, where that is
needed or always, and between the quotes of the language.
-/

namespace Launchpad.Machine.Quoting

open Text (Glyph)

def escape (c : Char) : String :=
  match c with
  | '\x07' => "\\a"
  | '\x08' => "\\b"
  | '\x0c' => "\\f"
  | '\n' => "\\n"
  | '\r' => "\\r"
  | '\t' => "\\t"
  | '\x0b' => "\\v"
  | c =>
    let n := c.toNat
    "\\" ++ toString (n / 64) ++ toString (n / 8 % 8) ++ toString (n % 8)

def isShown : Glyph → Bool
  | .char c => c.toNat ≥ 32 && c ≠ '\x7f' && !(0x80 ≤ c.toNat && c.toNat < 0xa0)
  | .broken _ => false

def octets (g : Glyph) : Octets := Octets.ofGlyphs [g]

/-- Characters that a shell would not take for themselves. -/
def isSpecial (c : Char) : Bool :=
  [' ', '!', '"', '#', '$', '&', '\'', '(', ')', '*', ';', '<', '=', '>', '?', '[', '\\', '^',
    '\x60', '|', '\x7b', '\x7d', '~'].contains c

/-- Whether a text has to be quoted for a shell. Some special characters matter at its front only,
or only when they are the whole text. -/
def needsQuotes (gs : List Glyph) : Bool :=
  match gs with
  | [] => true
  | [.char '\x7b'] => true
  | [.char '\x7d'] => true
  | first :: rest =>
    gs.any (fun g => !isShown g) || first = .char '#' || first = .char '~' ||
      (first :: rest).any fun g =>
        match g with
        | .char c => isSpecial c && c ≠ '#' && c ≠ '~' && c ≠ '\x7b' && c ≠ '\x7d'
        | .broken _ => false

/-- The inner part of a text between single quotes; `inEscape` tells whether signs are being
escaped. -/
def insideSingle (inEscape : Bool) : List Glyph → Octets
  | [] => if inEscape then "'" else ""
  | g :: rest =>
    if isShown g then
      (if inEscape then "''" else "") ++
        (if g = .char '\'' then "'\\''" else octets g) ++ insideSingle false rest
    else
      (if inEscape then "" else "'$'") ++
        String.join ((octets g).toList.map escape) ++ insideSingle true rest

def always (text : Octets) : Octets :=
  let gs := Octets.glyphs text
  let has (c : Char) : Bool := gs.contains (.char c)
  if has '\'' && gs.all isShown && !(['"', '$', '\x60', '\\', '!'].any has) then
    "\"" ++ text ++ "\""
  else
    let inner := insideSingle false gs
    if gs ≠ [] && (gs.getLast?.any fun g => !isShown g) then "'" ++ inner else "'" ++ inner ++ "'"

/-- A text as it is when a shell takes it for itself, and otherwise between quotes. -/
def asNeeded (text : Octets) : Octets :=
  if needsQuotes (Octets.glyphs text) then always text else text

/-- A text as it is when a shell takes it for itself and it holds no colon, and otherwise between
quotes. -/
def beforeColon (text : Octets) : Octets :=
  if needsQuotes (Octets.glyphs text) || text.toList.contains ':' then always text else text

def opening : Octets := Octets.ofText "‘"
def closing : Octets := Octets.ofText "’"

def escaped (text : Octets) : Octets :=
  String.join ((Octets.glyphs text).map fun g =>
    if g = .char '\\' then "\\\\"
    else if isShown g then octets g
    else String.join ((octets g).toList.map escape))

def plain (text : Octets) : Octets :=
  opening ++ (escaped text).replace closing ("\\" ++ closing) ++ closing

end Launchpad.Machine.Quoting
