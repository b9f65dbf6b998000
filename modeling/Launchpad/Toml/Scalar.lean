import Launchpad.Toml.Value

/-!
The words of a TOML document: blanks and comments, quoted texts, and the bare words that spell
truth values, numbers, dates and times. A reader takes the characters that are left and answers
what it read together with the rest; it answers nothing when the characters do not fit.
-/

namespace Launchpad.Toml

/-- A control character that may stand nowhere in a document: all but the tab, and DEL. -/
def isForbidden (c : Char) : Bool :=
  (c.toNat < 0x20 && c ≠ '\t') || c.toNat = 0x7F

def isBareKeyChar (c : Char) : Bool :=
  c.isAlphanum || c = '_' || c = '-'

def skipBlanks (cs : List Char) : List Char :=
  cs.dropWhile fun c => c = ' ' || c = '\t'

def newline? : List Char → Option (List Char)
  | '\n' :: rest => some rest
  | '\r' :: '\n' :: rest => some rest
  | _ => none

def skipCommentText : List Char → Option (List Char)
  | [] => some []
  | '\n' :: rest => some ('\n' :: rest)
  | '\r' :: '\n' :: rest => some ('\r' :: '\n' :: rest)
  | c :: rest => if isForbidden c then none else skipCommentText rest

/-- Leave out a comment, if one starts here. -/
def skipComment (cs : List Char) : Option (List Char) :=
  match cs with
  | '#' :: rest => skipCommentText rest
  | _ => some cs

/-- Leave out blanks, comments and ends of lines. `fuel` bounds the number of lines. -/
def skipLinesFuel : Nat → List Char → Option (List Char)
  | 0, cs => some cs
  | fuel + 1, cs => do
    let cs ← skipComment (skipBlanks cs)
    match newline? cs with
    | some rest => skipLinesFuel fuel rest
    | none => some cs

/-- Leave out blanks, comments and ends of lines. -/
def skipLines (cs : List Char) : Option (List Char) :=
  skipLinesFuel (cs.length + 1) cs

/-! ## Quoted texts -/

/-- The value of a hexadecimal digit. -/
def hexDigit? (c : Char) : Option Nat :=
  if '0' ≤ c && c ≤ '9' then some (c.toNat - '0'.toNat)
  else if 'a' ≤ c && c ≤ 'f' then some (c.toNat - 'a'.toNat + 10)
  else if 'A' ≤ c && c ≤ 'F' then some (c.toNat - 'A'.toNat + 10)
  else none

/-- The character whose code point is written in hexadecimal; there is none for a surrogate. -/
def scalar? (digits : List Char) : Option Char := do
  let values ← digits.mapM hexDigit?
  let n := values.foldl (fun n d => n * 16 + d) 0
  if n.isValidChar then some (Char.ofNat n) else none

/-- The character that a letter behind a backslash stands for. -/
def escaped? : Char → Option Char
  | 'b' => some '\x08'
  | 't' => some '\t'
  | 'n' => some '\n'
  | 'f' => some '\x0c'
  | 'r' => some '\r'
  | 'e' => some '\x1b'
  | '"' => some '"'
  | '\\' => some '\\'
  | _ => none

def readEscape : List Char → Option (Char × List Char)
  | 'x' :: a :: b :: rest => (scalar? [a, b]).map (·, rest)
  | 'u' :: a :: b :: c :: d :: rest => (scalar? [a, b, c, d]).map (·, rest)
  | 'U' :: a :: b :: c :: d :: e :: f :: g :: h :: rest =>
    (scalar? [a, b, c, d, e, f, g, h]).map (·, rest)
  | c :: rest => (escaped? c).map (·, rest)
  | [] => none

/-- Read a text between double quotes on one line, the first quote left out. `fuel` bounds the
number of characters. -/
def readBasicFuel : Nat → List Char → Option (List Char × List Char)
  | 0, _ => none
  | fuel + 1, cs =>
    match cs with
    | [] => none
    | '"' :: rest => some ([], rest)
    | '\\' :: rest => do
      let (c, rest) ← readEscape rest
      let (text, rest) ← readBasicFuel fuel rest
      some (c :: text, rest)
    | c :: rest =>
      if isForbidden c then none
      else do
        let (text, rest) ← readBasicFuel fuel rest
        some (c :: text, rest)

/-- Read a text between single quotes on one line, the first quote left out. -/
def readLiteral : List Char → Option (List Char × List Char)
  | [] => none
  | '\'' :: rest => some ([], rest)
  | c :: rest =>
    if isForbidden c then none
    else (readLiteral rest).map fun (text, rest) => (c :: text, rest)

/-- Leave out the blanks and the ends of lines behind a backslash that ends a line. -/
def skipFold : List Char → List Char
  | '\r' :: '\n' :: rest => skipFold rest
  | c :: rest => if c = ' ' || c = '\t' || c = '\n' then skipFold rest else c :: rest
  | [] => []

/-- Read a text between three quotes of either kind, the quotes at its start left out. Up to two
more quotes may stand right before its end. Escapes and folded lines count only with double quotes.
`fuel` bounds the number of characters. -/
def readLongFuel (mark : Char) : Nat → List Char → Option (List Char × List Char)
  | 0, _ => none
  | fuel + 1, cs =>
    if cs.take 5 = List.replicate 5 mark then some ([mark, mark], cs.drop 5)
    else if cs.take 4 = List.replicate 4 mark then some ([mark], cs.drop 4)
    else if cs.take 3 = List.replicate 3 mark then some ([], cs.drop 3)
    else match cs with
      | [] => none
      | '\r' :: '\n' :: rest => do
        let (text, rest) ← readLongFuel mark fuel rest
        some ('\r' :: '\n' :: text, rest)
      | '\n' :: rest => do
        let (text, rest) ← readLongFuel mark fuel rest
        some ('\n' :: text, rest)
      | c :: rest =>
        if c = '\\' && mark = '"' then
          match newline? (skipBlanks rest) with
          | some rest => readLongFuel mark fuel (skipFold rest)
          | none => do
            let (c, rest) ← readEscape rest
            let (text, rest) ← readLongFuel mark fuel rest
            some (c :: text, rest)
        else if isForbidden c then none
        else do
          let (text, rest) ← readLongFuel mark fuel rest
          some (c :: text, rest)

/-- Read a text between three quotes; an end of line right behind them does not count. -/
def readLong (mark : Char) (cs : List Char) : Option (List Char × List Char) :=
  readLongFuel mark (cs.length + 1) ((newline? cs).getD cs)

def readQuoted : List Char → Option (String × List Char)
  | '"' :: rest =>
    (readBasicFuel (rest.length + 1) rest).map fun (t, rest) => (String.ofList t, rest)
  | '\'' :: rest => (readLiteral rest).map fun (t, rest) => (String.ofList t, rest)
  | _ => none

/-- Read a quoted text in any of its four forms. -/
def readString (cs : List Char) : Option (String × List Char) :=
  match cs with
  | '"' :: '"' :: '"' :: rest => (readLong '"' rest).map fun (t, rest) => (String.ofList t, rest)
  | '\'' :: '\'' :: '\'' :: rest =>
    (readLong '\'' rest).map fun (t, rest) => (String.ofList t, rest)
  | _ => readQuoted cs

/-! ## Bare words -/

/-- A bare word ends before white space, a comment, a comma or a closing bracket. -/
def endsWord (c : Char) : Bool :=
  c = ' ' || c = '\t' || c = '\n' || c = '\r' || c = '#' || c = ',' || c = ']' || c = '\x7d'

/-- Digits with single underscores between them; answers the digits alone. -/
def digitsOf? (isDigit : Char → Bool) (cs : List Char) : Option (List Char) :=
  let groups := cs.splitOn '_'
  if groups.all fun g => g ≠ [] && g.all isDigit then some groups.flatten else none

/-- The value of digits to a base. -/
def valueOf (base : Nat) (digits : List Char) : Nat :=
  digits.foldl (fun n c => n * base + (hexDigit? c).getD 0) 0

/-- Digits to base ten without a leading zero. -/
def decimal? (cs : List Char) : Option Nat :=
  match digitsOf? Char.isDigit cs with
  | some ('0' :: _ :: _) => none
  | some digits => some (valueOf 10 digits)
  | none => none

def signed : List Char → Bool × List Char
  | '+' :: rest => (false, rest)
  | '-' :: rest => (true, rest)
  | cs => (false, cs)

/-- A whole number must lie between the least of 128 bits with a sign and the greatest without. -/
def inRange (n : Int) : Bool :=
  -170141183460469231731687303715884105728 ≤ n &&
    n < 340282366920938463463374607431768211456

def integer? (word : List Char) : Option Int :=
  let number := match word with
    | '0' :: 'x' :: digits =>
      (digitsOf? (fun c => (hexDigit? c).isSome) digits).map fun ds => (valueOf 16 ds : Int)
    | '0' :: 'o' :: digits =>
      (digitsOf? (fun c => '0' ≤ c && c ≤ '7') digits).map fun ds => (valueOf 8 ds : Int)
    | '0' :: 'b' :: digits =>
      (digitsOf? (fun c => c = '0' || c = '1') digits).map fun ds => (valueOf 2 ds : Int)
    | _ =>
      let (negative, digits) := signed word
      (decimal? digits).map fun n => if negative then -(n : Int) else (n : Int)
  number.filter inRange

/-- The least number that is too great for a binary number of 64 bits. -/
def floatLimit : Nat := Nat.pow 2 1024 - Nat.pow 2 970

/-- A number `m * 10 ^ e` is too great for a binary number of 64 bits. Far from the limit the count
of its digits tells. -/
def overflows (m : Nat) (e : Int) : Bool :=
  let places : Int := (Nat.toDigits 10 m).length + e
  if m = 0 || places < 300 then false
  else if places > 310 then true
  else if e ≥ 0 then m * Nat.pow 10 e.toNat ≥ floatLimit
  else m ≥ floatLimit * Nat.pow 10 (-e).toNat

/-- Read the exponent of a number, the letter in front left out. -/
def exponent? (cs : List Char) : Option Int :=
  let (negative, digits) := signed cs
  (digitsOf? Char.isDigit digits).map fun ds =>
    if negative then -(valueOf 10 ds : Int) else (valueOf 10 ds : Int)

/-- Whether a word is a number with a fraction or an exponent that is not too great. -/
def isFloat (word : List Char) : Bool :=
  let (_, unsigned) := signed word
  if unsigned = ['i', 'n', 'f'] || unsigned = ['n', 'a', 'n'] then true
  else
    let inMantissa (c : Char) : Bool := c ≠ 'e' && c ≠ 'E'
    let mantissa := unsigned.takeWhile inMantissa
    let exponent := match unsigned.dropWhile inMantissa with
      | [] => some 0
      | _ :: rest => exponent? rest
    let fraction := match mantissa.dropWhile (· ≠ '.') with
      | [] => some []
      | _ :: rest => digitsOf? Char.isDigit rest
    match decimal? (mantissa.takeWhile (· ≠ '.')), fraction, exponent with
    | some whole, some f, some e =>
      (f ≠ [] || mantissa ≠ unsigned) &&
        !overflows (whole * Nat.pow 10 f.length + valueOf 10 f) (e - f.length)
    | _, _, _ => false

/-- Read a bare word as a value. A date and a time may have a blank between them. -/
def readWord (cs : List Char) : Option (Value × List Char) :=
  let word := cs.takeWhile (!endsWord ·)
  let rest := cs.dropWhile (!endsWord ·)
  if word = "true".toList then some (.boolean true, rest)
  else if word = "false".toList then some (.boolean false, rest)
  else match integer? word with
    | some n => some (.integer n, rest)
    | none =>
      if isFloat word then some (.float (String.ofList word), rest)
      else match moment? word, rest with
        | none, _ => none
        | some (.date date), ' ' :: more =>
          match dateTime? date (more.takeWhile (!endsWord ·)) with
          | some moment => some (.moment moment, more.dropWhile (!endsWord ·))
          | none => some (.moment (.date date), rest)
        | some moment, _ => some (.moment moment, rest)

end Launchpad.Toml
