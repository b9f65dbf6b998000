import Launchpad.Machine.Options
import Launchpad.Machine.Quoting

/-!
Printing arguments as they are, and the escapes that stand for characters which are hard to write: a
backslash with a letter, or with the digits of a byte.
-/

namespace Launchpad.Machine.Programs

/-- The value of octal digits as a byte. -/
def octalByte (digits : List Char) : Char :=
  Char.ofNat (digits.foldl (fun n c => n * 8 + (c.toNat - '0'.toNat)) 0 % 256)

/-- An octal digit. -/
def isOctalDigit (c : Char) : Bool := '0' ≤ c && c ≤ '7'

/-- Up to so many octal digits at the front. -/
def octalDigits (limit : Nat) (cs : List Char) : List Char :=
  (cs.take limit).takeWhile isOctalDigit

def letterEscapes : List (Char × Char) :=
  [('\\', '\\'), ('a', '\x07'), ('b', '\x08'), ('e', '\x1b'), ('f', '\x0c'), ('n', '\n'),
    ('r', '\r'), ('t', '\t'), ('v', '\x0b')]

/-- Read what stands behind a backslash; one that starts nothing stands for itself. -/
def readEscape (cs : List Char) : List Char × List Char :=
  let octal := octalDigits 3 cs
  if octal ≠ [] then ([octalByte octal], cs.drop octal.length)
  else match cs with
    | [] => (['\\'], [])
    | c :: rest =>
      match letterEscapes.lookup c with
      | some b => ([b], rest)
      | none => (['\\'], cs)

/-- The characters behind a backslash without the zero in front of an octal number. -/
def dropZero (cs : List Char) : List Char :=
  match cs with
  | '0' :: d :: rest => if isOctalDigit d then d :: rest else cs
  | cs => cs

/-- Replace what stands behind backslashes in an argument, where an octal number may have a zero in
front. The answer also tells whether a sign to stop was met. `fuel` bounds the length. -/
def unescapeFuel : Nat → List Char → List Char × Bool
  | 0, _ => ([], false)
  | fuel + 1, cs =>
    match cs with
    | [] => ([], false)
    | '\\' :: 'c' :: _ => ([], true)
    | '\\' :: rest =>
      let (out, behind) := readEscape (dropZero rest)
      let (more, stopped) := unescapeFuel fuel behind
      (out ++ more, stopped)
    | c :: rest =>
      let (more, stopped) := unescapeFuel fuel rest
      (c :: more, stopped)

/-- Replace what stands behind backslashes in an argument. -/
def unescape (text : Octets) : Octets × Bool :=
  let (cs, stopped) := unescapeFuel (text.length + 1) text.toList
  (String.ofList cs, stopped)

/-- Arguments with backslashes replaced and blanks between them, up to a sign to stop. -/
def echoEscaped (lineEnd : Bool) : List Octets → Octets
  | [] => if lineEnd then "\n" else ""
  | arg :: rest =>
    let (text, stopped) := unescape arg
    if stopped then text
    else if rest = [] then text ++ (if lineEnd then "\n" else "")
    else text ++ " " ++ echoEscaped lineEnd rest

/-- Print the arguments with backslashes replaced, as the command inside a shell does. -/
def shellEcho : Program := do
  match ← Tool.args with
  | "-n" :: rest => Tool.print (echoEscaped false rest)
  | args => Tool.print (echoEscaped true args)

/-- Whether an argument holds options of `echo`. -/
def isEchoOption (arg : Octets) : Bool :=
  match arg.toList with
  | '-' :: letters@(_ :: _) => letters.all fun c => c = 'n' || c = 'e' || c = 'E'
  | _ => false

/-- Whether a character is a hexadecimal digit. -/
def isHexDigit (c : Char) : Bool := c.isDigit || ('a' ≤ c.toLower && c.toLower ≤ 'f')

/-- The value of hexadecimal digits. -/
def hexValue (digits : List Char) : Nat :=
  digits.foldl (fun n c =>
    n * 16 + (if c.isDigit then c.toNat - '0'.toNat else c.toLower.toNat - 'a'.toNat + 10)) 0

/-- Replace bytes that are written with an `x` and hexadecimal digits behind a backslash by the
octal form of the escape. `fuel` bounds the length. -/
def hexToOctalFuel : Nat → List Char → List Char
  | 0, _ => []
  | fuel + 1, cs =>
    match cs with
    | [] => []
    | '\\' :: 'x' :: rest =>
      let digits := (rest.take 2).takeWhile isHexDigit
      if digits = [] then '\\' :: 'x' :: hexToOctalFuel fuel rest
      else
        let n := hexValue digits
        let octal := [n / 64, n / 8 % 8, n % 8].map fun d => Char.ofNat ('0'.toNat + d)
        '\\' :: '0' :: octal ++ hexToOctalFuel fuel (rest.drop digits.length)
    | '\\' :: c :: rest => '\\' :: c :: hexToOctalFuel fuel rest
    | c :: rest => c :: hexToOctalFuel fuel rest

/-- Replace hexadecimal escapes by octal ones. -/
def hexToOctal (text : Octets) : Octets :=
  String.ofList (hexToOctalFuel (text.length + 1) text.toList)

/-- Print the arguments, as the program outside of a shell does. -/
def echo : Program := do
  let args ← Tool.args
  let options := (args.takeWhile isEchoOption).flatMap fun arg => arg.toList.drop 1
  let words := args.dropWhile isEchoOption
  let lineEnd := !options.contains 'n'
  if (options.filter (· ≠ 'n')).getLast? = some 'e' then
    Tool.print (echoEscaped lineEnd (words.map hexToOctal))
  else Tool.print (" ".intercalate words ++ if lineEnd then "\n" else "")

/-- Print one text over and over; so many lines that no reader asks for more. -/
def yes : Program := do
  let args ← Tool.args
  let words := if args.head? = some "--" then args.drop 1 else args
  let line := (if words = [] then "y" else " ".intercalate words) ++ "\n"
  let block := String.join (List.replicate (65536 / line.length + 1) line)
  for _ in List.range 4 do Tool.print block

end Launchpad.Machine.Programs
