import Launchpad.Text.Printable

/-!
Text between double quotes. A quote and a backslash are written behind a backslash, the four
common controls by a letter, every other character that has no glyph of its own or would attach to
its neighbour as its code point in hexadecimal, and all the rest as themselves.
-/

namespace Launchpad.Text

/-- The digits of a number to base sixteen, lower case, without leading zeros. -/
def hexDigits (n : Nat) : List Char :=
  Nat.toDigits 16 n

/-- How one character is written between double quotes. -/
def quoteChar (c : Char) : List Char :=
  if c = '"' then ['\\', '"']
  else if c = '\\' then ['\\', '\\']
  else if c = '\n' then ['\\', 'n']
  else if c = '\r' then ['\\', 'r']
  else if c = '\t' then ['\\', 't']
  else if c = '\x00' then ['\\', '0']
  else if isPlain c then [c]
  else ['\\', 'u', '\x7b'] ++ hexDigits c.toNat ++ ['\x7d']

/-- A list of characters as it is written between double quotes, without the quotes. -/
def quoteBody (cs : List Char) : List Char :=
  cs.flatMap quoteChar

def quote (s : String) : String :=
  String.ofList (['"'] ++ quoteBody s.toList ++ ['"'])

end Launchpad.Text
