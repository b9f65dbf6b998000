import Launchpad.Machine.Programs.Echo
import Launchpad.Script.Arithmetic
import Launchpad.Text.Decimal

/-!
Printing arguments under a format. A format holds texts, escapes and conversions, and is used again
as long as it uses up arguments and some are left. The command inside a shell and the program
outside of it follow the same rules and differ in their messages.
-/

namespace Launchpad.Machine.Programs

open Text (Decimal)

structure Conversion where
  flags : List Char
  width : Nat
  precision? : Option Nat
  letter : Char

namespace Conversion

def has (c : Conversion) (flag : Char) : Bool := c.flags.contains flag

def pad (c : Conversion) (zeros : Bool) (sign body : Octets) : Octets :=
  let missing := c.width - (sign.length + body.length)
  if c.has '-' then sign ++ body ++ "".pushn ' ' missing
  else if zeros && c.has '0' then sign ++ "".pushn '0' missing ++ body
  else "".pushn ' ' missing ++ sign ++ body

def sign (c : Conversion) (negative : Bool) : Octets :=
  if negative then "-" else if c.has '+' then "+" else if c.has ' ' then " " else ""

def integer (c : Conversion) (n : Int) : Octets :=
  let unsigned : Nat := (n % 18446744073709551616).toNat
  let isSigned := c.letter = 'd' || c.letter = 'i'
  let digitsOf (base : Nat) (n : Nat) : Octets := String.ofList (Nat.toDigits base n)
  let digits := match c.letter with
    | 'o' => digitsOf 8 unsigned
    | 'u' => digitsOf 10 unsigned
    | 'x' => digitsOf 16 unsigned
    | 'X' => (digitsOf 16 unsigned).map Char.toUpper
    | _ => digitsOf 10 n.natAbs
  let digits := if c.precision? = some 0 && n = 0 then "" else digits
  let digits := match c.precision? with
    | some p => "".pushn '0' (p - digits.length) ++ digits
    | none => digits
  let digits := if c.letter = 'o' && c.has '#' && !digits.startsWith "0" then "0" ++ digits
    else digits
  let mark := if isSigned then c.sign (n < 0)
    else if c.letter = 'x' && c.has '#' && n ≠ 0 then "0x"
    else if c.letter = 'X' && c.has '#' && n ≠ 0 then "0X"
    else ""
  c.pad c.precision?.isNone mark digits

def decimal (c : Conversion) (x : Decimal) : Octets :=
  let body := x.write c.letter.toLower (c.precision?.getD 6) (c.has '#')
  let body := if c.letter.isUpper then body.map Char.toUpper else body
  let isFinite : Bool := match x with
    | .finite _ _ _ => true
    | _ => false
  c.pad isFinite (c.sign x.isNegative) body

def text (c : Conversion) (text : Octets) : Octets :=
  let cut := match c.precision? with
    | some n => (text.take n).toString
    | none => text
  c.pad false "" cut

end Conversion

/-- Where the command inside a shell and the program outside of it differ. -/
structure FormatDialect where
  /-- How many binary digits numbers with a fraction have. -/
  precision : Nat
  /-- Whether there are bytes by hexadecimal digits and texts quoted for a shell. -/
  extended : Bool
  noNumber : Octets → Octets
  notWhole : Octets → Octets
  tooGreat : Octets → Octets
  badDirective : Octets → Octets
  badStatus : Nat

def shellDialect : FormatDialect where
  precision := 53
  extended := false
  noNumber arg := arg ++ ": expected numeric value"
  notWhole arg := arg ++ ": not completely converted"
  tooGreat arg := arg ++ ": Numerical result out of range"
  badDirective directive := directive ++ ": invalid directive"
  badStatus := 2

def programDialect : FormatDialect where
  precision := 64
  extended := true
  noNumber arg := Quoting.plain arg ++ ": expected a numeric value"
  notWhole arg := Quoting.plain arg ++ ": value not completely converted"
  tooGreat arg := Quoting.plain arg ++ ": Numerical result out of range"
  badDirective directive := directive ++ ": invalid conversion specification"
  badStatus := 1

abbrev Formatting := StateT (List Octets) Tool

namespace Formatting

def next : Formatting (Option Octets) :=
  modifyGet fun args => (args.head?, args.drop 1)

def nextInteger (d : FormatDialect) (isSigned : Bool) : Formatting Int := do
  match ← next with
  | none => return 0
  | some arg =>
    match arg.toList with
    | '"' :: rest => return (rest.head?.map fun c => (c.toNat : Int)).getD 0
    | '\'' :: rest => return (rest.head?.map fun c => (c.toNat : Int)).getD 0
    | cs =>
      let isGap (c : Char) : Bool := c = ' ' || ('\t' ≤ c && c ≤ '\x0d')
      let trimmed := cs.dropWhile isGap
      let (negative, digits) : Bool × List Char := match trimmed with
        | '-' :: rest => (true, rest)
        | '+' :: rest => (false, rest)
        | rest => (false, rest)
      if arg = "" && !d.extended then return 0
      else if !digits.head?.any Char.isDigit then
        StateT.lift (Tool.complain 1 (d.noNumber arg))
        return 0
      else
        let (n, behind) := Script.readNumber digits
        let value : Int := if negative then -(n : Int) else n
        let limit : Int := if isSigned then 9223372036854775807 else 18446744073709551615
        let least : Int := if isSigned then -9223372036854775808 else -18446744073709551615
        let clamped : Int := if value > limit then limit else if value < least then
          (if isSigned then least else limit) else value
        if behind ≠ [] then StateT.lift (Tool.complain 1 (d.notWhole arg))
        else if clamped ≠ value then StateT.lift (Tool.complain 1 (d.tooGreat arg))
        return clamped

/-- Take the next argument as a number with a fraction. -/
def nextDecimal (d : FormatDialect) : Formatting Decimal := do
  match ← next with
  | none => return .ofInt 0
  | some arg =>
    match arg.toList with
    | '"' :: rest => return .ofInt ((rest.head?.map fun c => (c.toNat : Int)).getD 0)
    | '\'' :: rest => return .ofInt ((rest.head?.map fun c => (c.toNat : Int)).getD 0)
    | cs =>
      match Decimal.read? cs with
      | none =>
        if arg ≠ "" || d.extended then StateT.lift (Tool.complain 1 (d.noNumber arg))
        return .ofInt 0
      | some (x, behind) =>
        if behind ≠ [] then StateT.lift (Tool.complain 1 (d.notWhole arg))
        return x.rounded d.precision

/-- A count in a format: digits, or a star for the next argument. -/
def readCount (d : FormatDialect) (cs : List Char) : Formatting (Int × List Char) := do
  match cs with
  | '*' :: rest => return (← nextInteger d true, rest)
  | cs => return (((natural? (cs.takeWhile Char.isDigit)).getD 0 : Nat), cs.dropWhile Char.isDigit)

/-- Read a conversion behind its percent sign, with the counts that it takes from arguments. -/
def readConversion (d : FormatDialect) (cs : List Char) :
    Formatting (Conversion × List Char) := do
  let flags := cs.takeWhile ("-+ #0".toList.contains ·)
  let (width, behind) ← readCount d (cs.drop flags.length)
  let flags := if width < 0 then '-' :: flags else flags
  let (precision?, behind) ← match behind with
    | '.' :: rest => do
      let (n, rest) ← readCount d rest
      pure (if n < 0 then none else some n.toNat, rest)
    | behind => pure (none, behind)
  match behind with
  | [] =>
    StateT.lift (Tool.fail d.badStatus (if d.extended then
      d.badDirective ("%" ++ String.ofList cs) else "missing format character"))
  | letter :: rest =>
    let known := "diouxXeEfFgGaAcsb" ++ (if d.extended then "q" else "")
    if known.toList.contains letter then
      return (⟨flags, width.natAbs, precision?, letter⟩, rest)
    else
      let directive := "%" ++ String.ofList (cs.take (cs.length - rest.length))
      StateT.lift (Tool.fail d.badStatus (d.badDirective directive))

/-- Print the next argument under a conversion. The answer tells whether printing goes on. -/
def convert (d : FormatDialect) (c : Conversion) : Formatting Bool := do
  let put (text : Octets) : Formatting Unit := StateT.lift (Tool.print text)
  match c.letter with
  | 's' => put (c.text ((← next).getD "")); return true
  | 'q' => put (c.text (Quoting.asNeeded ((← next).getD ""))); return true
  | 'b' =>
    let arg := (← next).getD ""
    let (text, stopped) := unescape (if d.extended then hexToOctal arg else arg)
    put (c.text text)
    return !stopped
  | 'c' =>
    let first := (← next).bind fun arg => arg.toList.head?
    let shown := match first with
      | some b => String.ofList [b]
      | none => if d.extended then "" else "\x00"
    put (({ c with precision? := none }).text shown)
    return true
  | letter =>
    if "diouxX".toList.contains letter then
      put (c.integer (← nextInteger d (letter = 'd' || letter = 'i')))
    else put (c.decimal (← nextDecimal d))
    return true

/-- Go through a format once; the answer tells whether printing goes on. `fuel` bounds its
length. -/
def formatFuel (d : FormatDialect) : Nat → List Char → Formatting Bool
  | 0, _ => return true
  | fuel + 1, cs => do
    let put (cs : List Char) : Formatting Unit := StateT.lift (Tool.print (String.ofList cs))
    match cs with
    | [] => return true
    | '\\' :: rest =>
      if d.extended then
        match rest with
        | 'c' :: _ => return false
        | '"' :: rest => do put ['"']; formatFuel d fuel rest
        | 'x' :: digits =>
          let own := (digits.take 2).takeWhile isHexDigit
          if own = [] then
            StateT.lift (Tool.fail 1 "missing hexadecimal number in escape")
          else
            put [Char.ofNat (hexValue own)]
            formatFuel d fuel (digits.drop own.length)
        | rest => do
          let (out, behind) := readEscape rest
          put out
          formatFuel d fuel behind
      else
        let (out, behind) := readEscape rest
        put out
        formatFuel d fuel behind
    | '%' :: '%' :: rest => put ['%']; formatFuel d fuel rest
    | '%' :: rest => do
      let (c, behind) ← readConversion d rest
      if ← convert d c then formatFuel d fuel behind else return false
    | cs => do
      let plain := cs.takeWhile fun c => c ≠ '\\' && c ≠ '%'
      put plain
      formatFuel d fuel (cs.drop plain.length)

/-- Go through a format, and again as long as it uses up arguments and some are left. `fuel` bounds
the number of rounds. -/
def roundsFuel (d : FormatDialect) (format : List Char) : Nat → Formatting Unit
  | 0 => return ()
  | fuel + 1 => do
    let before := (← get).length
    if ← formatFuel d (format.length + 1) format then
      let after ← get
      if after = [] then return ()
      else if after.length < before then roundsFuel d format fuel
      else if d.extended then
        StateT.lift (Tool.warn ("warning: ignoring excess arguments, starting with " ++
          Quoting.plain (after.headD "")))
      else return ()
    else return ()

end Formatting

def printFormat (d : FormatDialect) (format : Octets) (args : List Octets) : Tool Unit := do
  let _ ← (Formatting.roundsFuel d format.toList (args.length + 1)).run args
  return ()

/-- Print arguments under a format, as the command inside a shell does. -/
def shellPrintf : Program := do
  let args ← Tool.args
  let args := if args.head? = some "--" then args.drop 1 else args
  match args with
  | [] => Tool.fail 2 "usage: printf format [arg ...]"
  | format :: rest =>
    if args = (← Tool.args) && format.startsWith "-" && format.length > 1 then
      Tool.fail 2 ("Illegal option -" ++ ((format.drop 1).take 1).toString)
    else printFormat shellDialect format rest

/-- Print arguments under a format, as the program outside of a shell does. -/
def printf : Program := do
  let args ← Tool.args
  match (if args.head? = some "--" then args.drop 1 else args) with
  | [] => Tool.missingOperand
  | format :: rest =>
    if format = "--version" && rest = [] then
      Tool.print ("printf (" ++ Tool.collection ++ "\n")
    else printFormat programDialect format rest

end Launchpad.Machine.Programs
