import Launchpad.Machine.Programs.Format
import Std.Data.HashMap

/-!
The values of programs for records: numbers, texts, and texts from the input that count as numbers
when they look like one. Tables keep values under keys, and give their keys back in an order of
their own.
-/

namespace Launchpad.Machine.Programs.Records

open Text (Decimal)

inductive Value where
  | unset
  | number (x : Float)
  | text (content : Octets)
  /-- A text from outside, which may be a number. -/
  | input (content : Octets)
  deriving Inhabited

/-- The whole number that a float holds, as far as there are machine words for it. -/
def wholeOf? (x : Float) : Option Int :=
  match Decimal.ofFloat x with
  | .finite negative n d =>
    if n % d ≠ 0 then none
    else
      let m := n / d
      if negative then (if m ≤ 9223372036854775808 then some (-(m : Int)) else none)
      else if m ≤ 18446744073709551616 then some (min m 18446744073709551615 : Nat) else none
  | _ => none

/-- The machine word that a float comes closest to; what is behind the point is cut off. -/
def wordOf (x : Float) : Int :=
  match Decimal.ofFloat x with
  | .finite negative n d =>
    let m : Int := (n / d : Nat)
    if negative then max (-9223372036854775808) (-m)
    else if m > 18446744073709551615 then 9223372036854775807 else m
  | .infinite negative => if negative then -9223372036854775808 else 9223372036854775807
  | .undefined _ => -9223372036854775808

def ofWhole (n : Int) : Float := (Decimal.ofInt n).toFloat

def numberText (format : Octets) (x : Float) : Octets :=
  match wholeOf? x with
  | some n => toString n
  | none =>
    match format.toList with
    | '%' :: rest =>
      let digits := (rest.dropWhile fun c => c = '.').takeWhile Char.isDigit
      let behind := rest.dropWhile fun c => c = '.' || c.isDigit
      let precision? := if rest.head? = some '.' then some ((natural? digits).getD 0) else none
      let width := if rest.head? = some '.' then 0 else (natural? digits).getD 0
      match behind with
      | [letter] =>
        if "eEfFgG".toList.contains letter then
          Conversion.decimal ⟨[], width, precision?, letter⟩ (.ofFloat x)
        else if "di".toList.contains letter then
          Conversion.integer ⟨[], width, precision?, letter⟩ (wordOf x)
        else format
      | _ => format
    | _ => format

/-- The number at the front of a text; zero when there is none. -/
def leadingNumber (text : Octets) : Float :=
  match Decimal.read? text.toList with
  | some (x, _) => x.toFloat
  | none => 0

def isBlank (c : Char) : Bool :=
  c = ' ' || c = '\t' || c = '\x0b' || c = '\x0c' || c = '\r'

/-- The number that a whole text looks like. Blanks may stand around it. -/
def looksLike? (text : Octets) : Option Float :=
  let cs := ((text.toList.dropWhile isBlank).reverse.dropWhile isBlank).reverse
  let starts := cs.head?.any fun c => c.isDigit || c = '+' || c = '-' || c = '.'
  let ends := cs.getLast?.any fun c => c.isDigit || c = '.'
  if starts && ends then
    match Decimal.read? cs with
    | some (x, []) => some x.toFloat
    | _ => none
  else none

namespace Value

def ofNat (n : Nat) : Value := .number (ofWhole n)

/-- One for a condition that holds, and zero otherwise. -/
def ofBool (b : Bool) : Value := .number (if b then 1 else 0)

def toNumber : Value → Float
  | .unset => 0
  | .number x => x
  | .text s => leadingNumber s
  | .input s => leadingNumber s

/-- A value as a text; `format` is for numbers that are not whole. -/
def toText (format : Octets) : Value → Octets
  | .unset => ""
  | .number x => numberText format x
  | .text s => s
  | .input s => s

def isTrue : Value → Bool
  | .unset => false
  | .number x => x != 0
  | .text s => s ≠ ""
  | .input s =>
    match looksLike? s with
    | some x => x != 0
    | none => s ≠ ""

def comparable? : Value → Option Float
  | .unset => some 0
  | .number x => some x
  | .text _ => none
  | .input s => looksLike? s

end Value

inductive Key where
  | number (n : Int)
  | text (content : Octets)
  deriving Inhabited

def Key.toText : Key → Octets
  | .number n => toString n
  | .text s => s

/-- Values under keys. A table keeps its keys on shelves, the one that was used last in front; those
that were used as numbers alone are put among the others when the texts of keys are asked for. -/
structure Table where
  values : Std.HashMap Octets Value := {}
  shelves : Array (List Octets)
  numbered : Array (List Int)
  /-- The texts of all keys are on the shelves. -/
  hasTexts : Bool := false
  /-- The keys are the numbers from one on, and none of them has moved. -/
  isRow : Bool := false

namespace Table

def shelfCount : Nat := 64

def empty : Table :=
  { shelves := Array.replicate shelfCount [], numbered := Array.replicate shelfCount [] }

instance : Inhabited Table := ⟨empty⟩

def shelfOf (text : Octets) : Nat :=
  (text.toList.foldl (fun (sum : UInt32) c => (sum ^^^ c.toNat.toUInt32) * 16777619)
    2166136261).toNat % shelfCount

def numberShelf (n : Int) : Nat := (n % (shelfCount : Int)).toNat

def shelve (t : Table) (text : Octets) : Table :=
  { t with shelves := t.shelves.modify (shelfOf text) fun shelf => text :: shelf.erase text }

def withTexts (t : Table) : Table :=
  if t.hasTexts then t
  else
    t.numbered.foldl (fun t shelf => shelf.foldl (fun t n => t.shelve (toString n)) t)
      { t with hasTexts := true, isRow := false }

def has (t : Table) (k : Key) : Bool := t.values.contains k.toText

/-- Look at a key; it comes to the front. -/
def touch (t : Table) : Key → Table
  | .text s => t.withTexts.shelve s
  | .number n =>
    if t.isRow && 1 ≤ n && n ≤ t.values.size then t
    else
      let t := { t with isRow := false }
      let isKnown := ((t.numbered[numberShelf n]?).getD []).contains n
      let t := if t.hasTexts && !isKnown then t.shelve (toString n) else t
      { t with numbered := t.numbered.modify (numberShelf n) fun shelf => n :: shelf.erase n }

def get? (t : Table) (k : Key) : Option Value := t.values[k.toText]?

def put (t : Table) (k : Key) (v : Value) : Table :=
  let t := t.touch k
  { t with values := t.values.insert k.toText v }

/-- Whether there is a value under a key; one that is there comes to the front. -/
def find (t : Table) (k : Key) : Bool × Table :=
  if t.has k then (true, t.touch k) else (false, t)

def remove (t : Table) (k : Key) : Table :=
  if !t.has k then t
  else
    let text := k.toText
    let values := t.values.erase text
    if values.isEmpty then empty
    else
      let t := t.touch k
      { t with
        values := values
        isRow := false
        shelves := t.shelves.modify (shelfOf text) fun shelf => shelf.erase text
        numbered := match k with
          | .number n => t.numbered.modify (numberShelf n) fun shelf => shelf.erase n
          | .text s => t.numbered.map fun shelf => shelf.filter fun n => toString n ≠ s }

def ofList (values : List Value) : Table :=
  let t := (values.zip (List.range values.length)).foldl (fun (t : Table) (v, i) =>
    t.put (.number (i + 1)) v) empty
  { t with isRow := true }

def keys (t : Table) : List Octets × Table :=
  let t := t.withTexts
  (t.shelves.toList.flatten, t)

end Table

end Launchpad.Machine.Programs.Records
