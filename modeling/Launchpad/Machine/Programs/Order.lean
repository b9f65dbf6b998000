import Launchpad.Machine.Inputs
import Launchpad.Text.Decimal

/-!
How lines are compared: byte by byte, as numbers of several kinds, as months, or as versions; and
the keys, which say what part of a line is compared and how.
-/

namespace Launchpad.Machine.Programs

def isBlankByte (c : Char) : Bool := c = ' ' || c = '\t'

/-- A number as it is written: below zero or not, the digits of the whole part without zeros in
front, and those of the fraction without zeros behind. -/
structure Numeral where
  negative : Bool
  whole : List Char
  fraction : List Char
  deriving Repr, Inhabited

/-- Read the numeral at the front of a text; the answer holds what is behind it. -/
def Numeral.read (cs : List Char) : Numeral × List Char :=
  let cs := cs.dropWhile fun c => isBlankByte c || c = '\n'
  let negative := cs.head? = some '-'
  let cs := if negative then cs.drop 1 else cs
  let whole := cs.takeWhile Char.isDigit
  let behind := cs.dropWhile Char.isDigit
  let (fraction, rest) := match behind with
    | '.' :: rest => (rest.takeWhile Char.isDigit, rest.dropWhile Char.isDigit)
    | rest => ([], rest)
  (⟨negative, whole.dropWhile (· = '0'), (fraction.reverse.dropWhile (· = '0')).reverse⟩, rest)

namespace Numeral

/-- Whether a number is zero. -/
def isZero (n : Numeral) : Bool := n.whole = [] && n.fraction = []

def compareSize (a b : Numeral) : Ordering :=
  (compare a.whole.length b.whole.length).then
    ((compare (String.ofList a.whole) (String.ofList b.whole)).then
      (compare (String.ofList a.fraction) (String.ofList b.fraction)))

/-- Compare two numbers; a zero with a sign is still zero. -/
def order (a b : Numeral) : Ordering :=
  match a.negative && !a.isZero, b.negative && !b.isZero with
  | true, false => .lt
  | false, true => .gt
  | true, true => compareSize b a
  | false, false => compareSize a b

end Numeral

def monthNames : List String :=
  ["JAN", "FEB", "MAR", "APR", "MAY", "JUN", "JUL", "AUG", "SEP", "OCT", "NOV", "DEC"]

/-- The number of the month that a text begins with, zero for none. -/
def monthNumber (cs : List Char) : Nat :=
  let name := String.ofList (((cs.dropWhile isBlankByte).take 3).map Char.toUpper)
  match monthNames.idxOf? name with
  | some k => k + 1
  | none => 0

/-- The rank of a text as a number with a unit: its sign, and the power that the unit stands for. -/
def unitRank (cs : List Char) : Int :=
  let (n, rest) := Numeral.read cs
  let power := match rest with
    | c :: _ => (unitPowers.lookup c).getD 0
    | [] => 0
  if n.isZero then 0 else if n.negative then -(power : Int) - 1 else power + 1

def compareUnits (a b : List Char) : Ordering :=
  (compare (unitRank a) (unitRank b)).then ((Numeral.read a).1.order (Numeral.read b).1)

/-- The rank of a character outside of numbers in a version; the end of the text has its own. -/
def versionRank : Option Char → Int
  | none => -1
  | some c =>
    if c.isDigit then 0
    else if c.isAlpha then c.toNat
    else if c = '~' then -2
    else c.toNat + 256

/-- Compare two versions, parts without digits and numbers by turns. `fuel` bounds the number of
characters. -/
def compareVersionsFuel : Nat → List Char → List Char → Ordering
  | 0, _, _ => .eq
  | fuel + 1, a, b =>
    if a = [] && b = [] then .eq
    else
      let isNumber (cs : List Char) : Bool := match cs with
        | c :: _ => c.isDigit
        | [] => false
      let aEnds := a = [] || isNumber a
      let bEnds := b = [] || isNumber b
      if !(aEnds && bEnds) then
        (compare (versionRank a.head?) (versionRank b.head?)).then
          (compareVersionsFuel fuel (a.drop 1) (b.drop 1))
      else
        let number (cs : List Char) : List Char := (cs.takeWhile Char.isDigit).dropWhile (· = '0')
        if a = [] || b = [] then compare (versionRank a.head?) (versionRank b.head?)
        else
          let m := number a
          let n := number b
          ((compare m.length n.length).then (compare (String.ofList m) (String.ofList n))).then
            (compareVersionsFuel fuel (a.dropWhile Char.isDigit) (b.dropWhile Char.isDigit))

/-- A version without the endings that name a kind of file. `fuel` bounds their number. -/
def withoutEndings : Nat → List Char → List Char
  | 0, cs => cs
  | fuel + 1, cs =>
    let isInside (c : Char) : Bool := c.isAlphanum || c = '~'
    let ending := cs.reverse.takeWhile isInside
    match cs.reverse.dropWhile isInside with
    | '.' :: front =>
      match ending.getLast? with
      | some c => if c.isDigit || front = [] then cs else withoutEndings fuel front.reverse
      | none => cs
    | _ => cs

def compareVersions (a b : List Char) : Ordering :=
  let hidden (cs : List Char) : Bool := cs.head? = some '.'
  match a, b with
  | [], [] => .eq
  | [], _ => .lt
  | _, [] => .gt
  | a, b =>
    if hidden a && !hidden b then .lt
    else if hidden b && !hidden a then .gt
    else
      let bare (cs : List Char) : List Char := withoutEndings cs.length cs
      let fuel := a.length + b.length + 1
      (compareVersionsFuel fuel (bare a) (bare b)).then (compareVersionsFuel fuel a b)

/-- The rank of a text as a number of any size: texts that are none come first, then those that
stand for no number. -/
def generalRank (cs : List Char) : Nat × Float :=
  match Text.Decimal.read? (cs.dropWhile isBlankByte) with
  | none => (0, 0)
  | some (.undefined _, _) => (1, 0)
  | some (x, _) => (2, x.toFloat)

def compareGeneral (a b : List Char) : Ordering :=
  let (m, x) := generalRank a
  let (n, y) := generalRank b
  (compare m n).then (if x < y then .lt else if y < x then .gt else .eq)

structure SortKey where
  /-- The field that the part begins in, counted from zero. -/
  field : Nat := 0
  /-- How many characters of it are left out. -/
  offset : Nat := 0
  /-- The field that the part ends in, and how many characters of it count: all, if none. -/
  until? : Option (Nat × Nat) := none
  skipsStart : Bool := false
  skipsEnd : Bool := false
  /-- The letters that say how the part is compared. -/
  letters : List Char := []
  deriving Repr, Inhabited

/-- What stands behind so many fields. Without a separator, a field begins with the blanks in front
of it. -/
def dropFields (separator? : Option Char) : Nat → List Char → List Char
  | 0, cs => cs
  | n + 1, cs =>
    match separator? with
    | some s => dropFields separator? n ((cs.dropWhile (· ≠ s)).drop 1)
    | none =>
      dropFields separator? n ((cs.dropWhile isBlankByte).dropWhile (!isBlankByte ·))

def SortKey.endOf (k : SortKey) (separator? : Option Char) (line : List Char) : Nat :=
  match k.until? with
  | none => line.length
  | some (field, count) =>
    if count = 0 then
      match separator? with
      | some s =>
        let behind := dropFields separator? field line
        line.length - behind.length + (behind.takeWhile (· ≠ s)).length
      | none => line.length - (dropFields none (field + 1) line).length
    else
      let behind := dropFields separator? field line
      let trimmed := if k.skipsEnd then behind.dropWhile isBlankByte else behind
      min line.length (line.length - trimmed.length + count)

def SortKey.part (k : SortKey) (separator? : Option Char) (line : List Char) : List Char :=
  let behind := dropFields separator? k.field line
  let trimmed := if k.skipsStart then behind.dropWhile isBlankByte else behind
  let start := min line.length (line.length - trimmed.length + k.offset)
  (line.take (k.endOf separator? line)).drop start

def SortKey.compareParts (k : SortKey) (a b : List Char) : Ordering :=
  let has (c : Char) : Bool := k.letters.contains c
  let order :=
    if has 'n' then (Numeral.read a).1.order (Numeral.read b).1
    else if has 'g' then compareGeneral a b
    else if has 'h' then compareUnits a b
    else if has 'M' then compare (monthNumber a) (monthNumber b)
    else if has 'V' then compareVersions a b
    else
      let kept (c : Char) : Bool :=
        (!has 'd' || c.isAlphanum || isBlankByte c) && (!has 'i' || (' ' ≤ c && c ≤ '~'))
      let seen (cs : List Char) : String :=
        String.ofList ((cs.filter kept).map fun c => if has 'f' then c.toUpper else c)
      compare (seen a) (seen b)
  if has 'r' then order.swap else order

structure SortOrder where
  keys : List SortKey := []
  separator? : Option Char := none
  /-- Lines that are equal by their keys are not looked at further. -/
  keysOnly : Bool := false
  reversed : Bool := false

structure SortLine where
  text : Octets
  parts : List (List Char)
  deriving Inhabited

def SortOrder.line (o : SortOrder) (text : Octets) : SortLine :=
  let cs := if o.keys.isEmpty then [] else text.toList
  ⟨text, o.keys.map (·.part o.separator? cs)⟩

def SortOrder.compareKeys (o : SortOrder) (a b : SortLine) : Ordering :=
  (o.keys.zip (a.parts.zip b.parts)).foldl (fun order (k, x, y) =>
    order.then (k.compareParts x y)) .eq

def SortOrder.compare (o : SortOrder) (a b : SortLine) : Ordering :=
  let last := Ord.compare a.text b.text
  let last := if o.reversed then last.swap else last
  if o.keys.isEmpty then last
  else (o.compareKeys a b).then (if o.keysOnly then .eq else last)

end Launchpad.Machine.Programs
