/-!
White space of text: the characters that carry the Unicode property `White_Space`. Trimming a text
and asking whether it is blank both rest on this one class, so a name made of no-break spaces is as
empty as one made of spaces.
-/

namespace Launchpad.Text

/-- The twenty-five characters with the property `White_Space`. -/
def isBlank (c : Char) : Bool :=
  let n := c.toNat
  (0x09 ≤ n && n ≤ 0x0D) || n == 0x20 || n == 0x85 || n == 0xA0 || n == 0x1680 ||
    (0x2000 ≤ n && n ≤ 0x200A) || n == 0x2028 || n == 0x2029 || n == 0x202F || n == 0x205F ||
    n == 0x3000

/-- A text is blank when it holds nothing but white space; the empty text is. -/
def isBlankText (s : String) : Bool :=
  s.toList.all isBlank

/-- Drop the white space at both ends of a list of characters. -/
def trimList (cs : List Char) : List Char :=
  ((cs.dropWhile isBlank).reverse.dropWhile isBlank).reverse

/-- Drop the white space at both ends of a text. -/
def trim (s : String) : String :=
  String.ofList (trimList s.toList)

end Launchpad.Text
