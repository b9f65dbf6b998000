import Launchpad.Machine.Inputs
import Launchpad.Machine.Programs.Echo

/-!
Replacing, deleting and squeezing single bytes. The bytes are named by two lists, in which ranges,
classes and repetitions can stand.
-/

namespace Launchpad.Machine.Programs

/-- A character of a list, and whether a backslash took its meaning away. -/
structure Sign where
  char : Char
  isEscaped : Bool
  deriving DecidableEq, Repr, Inhabited

/-- Replace what stands behind backslashes. `fuel` bounds the length. -/
def readSigns : Nat → List Char → List Sign
  | 0, _ => []
  | fuel + 1, cs =>
    match cs with
    | [] => []
    | ['\\'] => [⟨'\\', false⟩]
    | '\\' :: rest =>
      let octal := octalDigits 3 rest
      let octal := if hexValue octal ≥ 0x400 then octal.take 2 else octal
      if octal ≠ [] then ⟨octalByte octal, true⟩ :: readSigns fuel (rest.drop octal.length)
      else match rest with
        | [] => []
        | c :: rest =>
          let b := if c = 'e' then 'e' else (letterEscapes.lookup c).getD c
          ⟨b, true⟩ :: readSigns fuel rest
    | c :: rest => ⟨c, false⟩ :: readSigns fuel rest

inductive SetPart where
  | one (c : Char)
  | range (low high : Char)
  | named (name : String) (members : List Char)
  /-- One character so many times; zero stands for as often as needed. -/
  | repeated (c : Char) (count : Nat)
  deriving Repr, Inhabited

inductive SetError where
  | reversed (low high : Char)
  | noClass (name : Octets)
  | badCount (text : Octets)
  | badEquivalent (text : Octets)

def allBytes : List Char := (List.range 256).map Char.ofNat

def classMembers? (name : String) : Option (List Char) :=
  let pick (p : Char → Bool) : Option (List Char) := some (allBytes.filter p)
  match name with
  | "alpha" => pick Char.isAlpha
  | "digit" => pick Char.isDigit
  | "alnum" => pick Char.isAlphanum
  | "upper" => pick Char.isUpper
  | "lower" => pick Char.isLower
  | "space" => pick fun c => c = ' ' || ('\t' ≤ c && c ≤ '\x0d')
  | "blank" => pick fun c => c = ' ' || c = '\t'
  | "punct" => pick fun c => '!' ≤ c && c ≤ '~' && !c.isAlphanum
  | "print" => pick fun c => ' ' ≤ c && c ≤ '~'
  | "graph" => pick fun c => '!' ≤ c && c ≤ '~'
  | "cntrl" => pick fun c => c < ' ' || c = '\x7f'
  | "xdigit" => pick isHexDigit
  | _ => none

def untilBracket (mark : Char) : List Sign → Option (List Sign × List Sign)
  | [] => none
  | s :: rest =>
    match rest with
    | t :: behind =>
      if s.char = mark && !s.isEscaped && t.char = ']' && !t.isEscaped then some ([], behind)
      else (untilBracket mark rest).map fun (inner, rest) => (s :: inner, rest)
    | [] => none

def signText (signs : List Sign) : Octets := String.ofList (signs.map (·.char))

/-- A character that is said to be repeated, behind its opening bracket. -/
def readRepeat? (signs : List Sign) : Option (Except SetError SetPart × List Sign) :=
  match signs with
  | c :: ⟨'*', false⟩ :: rest =>
    let inner := rest.takeWhile fun s => s.char ≠ ']' || s.isEscaped
    match rest.drop inner.length with
    | [] => none
    | _ :: behind =>
      let digits := inner.map (·.char)
      if inner.any (·.isEscaped) then none
      else if digits = [] then some (.ok (.repeated c.char 0), behind)
      else if digits.head? = some '0' && digits.all isOctalDigit then
        some (.ok (.repeated c.char (digits.foldl (fun n d => n * 8 + (d.toNat - '0'.toNat)) 0)),
          behind)
      else match natural? digits with
        | some n => some (.ok (.repeated c.char n), behind)
        | none => some (.error (.badCount (String.ofList digits)), behind)
  | _ => none

/-- Read the parts of a list. `fuel` bounds the length. -/
def readParts : Nat → List Sign → Except SetError (List SetPart)
  | 0, _ => .ok []
  | fuel + 1, signs =>
    let plain : Except SetError (List SetPart) :=
      match signs with
      | [] => .ok []
      | a :: ⟨'-', false⟩ :: b :: rest =>
        if b.char < a.char then .error (.reversed a.char b.char)
        else (readParts fuel rest).map (.range a.char b.char :: ·)
      | a :: rest => (readParts fuel rest).map (.one a.char :: ·)
    match signs with
    | ⟨'[', false⟩ :: ⟨':', false⟩ :: rest =>
      match untilBracket ':' rest with
      | some (inner, behind) =>
        match classMembers? (signText inner) with
        | some members => (readParts fuel behind).map (.named (signText inner) members :: ·)
        | none =>
          if (readRepeat? (⟨':', false⟩ :: rest)).isSome then plain
          else .error (.noClass (signText inner))
      | none => plain
    | ⟨'[', false⟩ :: ⟨'=', false⟩ :: rest =>
      match untilBracket '=' rest with
      | some ([c], behind) => (readParts fuel behind).map (.one c.char :: ·)
      | some (inner, _) => .error (.badEquivalent (signText inner))
      | none => plain
    | ⟨'[', false⟩ :: rest =>
      match readRepeat? rest with
      | some (.ok part, behind) => (readParts fuel behind).map (part :: ·)
      | some (.error why, _) => .error why
      | none => plain
    | _ => plain

def setParts (text : Octets) : Except SetError (List SetPart) :=
  let signs := readSigns (text.length + 1) text.toList
  readParts (signs.length + 1) signs

/-- The characters of a part; repetitions without a number give so many. -/
def SetPart.chars (filling : Nat) : SetPart → List Char
  | .one c => [c]
  | .range low high =>
    (List.range (high.toNat + 1 - low.toNat)).map fun k => Char.ofNat (low.toNat + k)
  | .named _ members => members
  | .repeated c count => List.replicate (if count = 0 then filling else count) c

/-- Whether a part is a repetition without a number. -/
def SetPart.fills : SetPart → Bool
  | .repeated _ 0 => true
  | _ => false

def setChars (wanted : Nat) (parts : List SetPart) : List Char :=
  let own := (parts.filter (!·.fills)).flatMap (·.chars 0)
  parts.flatMap (·.chars (wanted - own.length))

def shownByte (c : Char) : Octets :=
  if c.toNat < 32 || c.toNat ≥ 127 then
    let n := c.toNat
    "\\" ++ String.ofList ([n / 64, n / 8 % 8, n % 8].map fun d => Char.ofNat ('0'.toNat + d))
  else String.ofList [c]

def readSet (text : Octets) : Tool (List SetPart) := do
  match setParts text with
  | .ok parts => return parts
  | .error (.reversed low high) =>
    Tool.fail 1 ("range-endpoints of '" ++ shownByte low ++ "-" ++ shownByte high ++
      "' are in reverse collating sequence order")
  | .error (.noClass name) => Tool.fail 1 ("invalid character class " ++ Quoting.plain name)
  | .error (.badCount text) =>
    Tool.fail 1 ("invalid repeat count " ++ Quoting.plain text ++ " in [c*n] construct")
  | .error (.badEquivalent text) =>
    Tool.fail 1 (text ++ ": equivalence class operand must be a single character")

def memberTable (cs : List Char) : Array Bool :=
  cs.foldl (fun table c => table.setIfInBounds c.toNat true) (Array.replicate 256 false)

def squeeze (table : Array Bool) (cs : List Char) : List Char :=
  let (out, _) := cs.foldl (fun (out, last?) c =>
    if last? = some c && (table[c.toNat]?).getD false then (out, last?) else (c :: out, some c))
    (([] : List Char), (none : Option Char))
  out.reverse

/-- Translate, delete or squeeze the bytes of the standard input. -/
def tr : Program := do
  let g ← Tool.options
    [.flag 'c' "complement", .flag 'C', .flag 'd' "delete", .flag 's' "squeeze-repeats",
      .flag 't' "truncate-set1"] 1 false
  let complements := g.has 'c' || g.has 'C'
  let deletes := g.has 'd'
  let squeezes := g.has 's'
  let translates := g.operands.length = 2 && !deletes
  let least := if deletes = squeezes then 2 else 1
  let greatest := if deletes && !squeezes then 1 else 2
  match g.operands with
  | [] => Tool.missingOperand
  | operands =>
    if operands.length < least then
      Tool.warn ("missing operand after " ++ Quoting.plain (operands.getLastD ""))
      Tool.printError (if deletes then
          "Two strings must be given when both deleting and squeezing repeats."
        else "Two strings must be given when translating.")
      Tool.hint 1
    else if operands.length > greatest then
      Tool.warn ("extra operand " ++ Quoting.plain ((operands[greatest]?).getD ""))
      if operands.length = 2 then
        Tool.printError "Only one string may be given when deleting without squeezing repeats."
      Tool.hint 1
    let first ← readSet (operands.headD "")
    let second ← match operands with
      | [_, text] => readSet text
      | _ => pure []
    if first.any fun | .repeated _ _ => true | _ => false then
      Tool.fail 1 "the [c*] repeat construct may not appear in string1"
    let own := setChars 0 first
    let own := if complements then allBytes.filter (!own.contains ·) else own
    if translates then
      let isCase (p : SetPart) : Bool := match p with
        | .named name _ => name = "upper" || name = "lower"
        | _ => true
      if (second.filter SetPart.fills).length > 1 then
        Tool.fail 1 "only one [c*] repeat construct may appear in string2"
      if !second.all isCase then
        Tool.fail 1 ("when translating, the only character classes that may appear in\n" ++
          "string2 are 'upper' and 'lower'")
      if second.isEmpty && !g.has 't' then
        Tool.fail 1 "when not truncating set1, string2 must be non-empty"
    let other := setChars own.length second
    let table : Array Char := if translates then
        let other := if g.has 't' then other else
          other ++ List.replicate (own.length - other.length) (other.getLastD 'x')
        (own.zip other).foldl (fun table (a, b) => table.setIfInBounds a.toNat b) allBytes.toArray
      else allBytes.toArray
    let gone := memberTable (if deletes then own else [])
    let squeezed := memberTable (if !squeezes then []
      else if operands.length = 2 then other else own)
    match ← Tool.readInput with
    | .error number => Tool.fail 1 ("read error: " ++ number.text)
    | .ok bytes =>
      let cs := (Octets.ofArray bytes).toList
      let kept := if deletes then cs.filter fun c => !(gone[c.toNat]?).getD false else cs
      let changed := if translates then kept.map fun c => (table[c.toNat]?).getD c else kept
      Tool.print (String.ofList (if squeezes then squeeze squeezed changed else changed))

end Launchpad.Machine.Programs
