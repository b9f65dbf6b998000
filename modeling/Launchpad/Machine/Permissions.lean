import Launchpad.Machine.Octets

/-!
Permissions as they are written: by octal digits, or by clauses that say who gets or loses which
rights.
-/

namespace Launchpad.Machine.Permissions

/-- The number that octal digits spell. -/
def octal? (text : Octets) : Option Nat :=
  let cs := text.toList
  if cs ≠ [] && cs.all fun c => '0' ≤ c && c ≤ '7' then
    some (cs.foldl (fun n c => n * 8 + (c.toNat - '0'.toNat)) 0)
  else none

/-- Permissions by four octal digits. -/
def digits (mode : Nat) : Octets :=
  String.ofList ([mode / 512 % 8, mode / 64 % 8, mode / 8 % 8, mode % 8].map fun d =>
    Char.ofNat ('0'.toNat + d))

/-- The bits of those who are named. -/
def whoBits (who : List Char) : Nat :=
  who.foldl (fun bits c => bits ||| (match c with
    | 'u' => 0o4700
    | 'g' => 0o2070
    | 'o' => 0o1007
    | _ => 0o7777)) 0

/-- The bits of a right, for everyone. A capital `X` counts only where some `x` is there or for a
directory. -/
def rightBits (mode : Nat) (isDirectory : Bool) (c : Char) : Nat :=
  match c with
  | 'r' => 0o444
  | 'w' => 0o222
  | 'x' => 0o111
  | 'X' => if isDirectory || (mode &&& 0o111) ≠ 0 then 0o111 else 0
  | 's' => 0o6000
  | 't' => 0o1000
  | 'u' => (mode / 64 % 8) * 0o111
  | 'g' => (mode / 8 % 8) * 0o111
  | 'o' => (mode % 8) * 0o111
  | _ => 0

/-- Read one clause: who, then signs each with rights. `fuel` bounds the number of signs. -/
def applyActions (umask : Nat) (isDirectory : Bool) (who : List Char) :
    Nat → List Char → Nat → Option Nat
  | 0, _, mode => some mode
  | fuel + 1, cs, mode =>
    match cs with
    | [] => some mode
    | sign :: rest =>
      if sign = '+' || sign = '-' || sign = '=' then
        let isRight (c : Char) : Bool := "rwxXstugo".toList.contains c
        let rights := rest.takeWhile isRight
        let everyone := if who = [] then 0o7777 &&& (0o7777 ^^^ umask) else whoBits who
        let bits := (rights.foldl (fun bits c => bits ||| rightBits mode isDirectory c) 0) &&&
          everyone
        let mode := match sign with
          | '+' => mode ||| bits
          | '-' => mode &&& (0o7777 ^^^ bits)
          | _ =>
            let cleared := if who = [] then 0o777 else whoBits who &&& 0o777
            (mode &&& (0o7777 ^^^ cleared)) ||| bits
        applyActions umask isDirectory who fuel (rest.dropWhile isRight) mode
      else none

/-- Change permissions as a text asks. Rights that are given to no one in particular spare the bits
of `umask`. -/
def change? (umask : Nat) (isDirectory : Bool) (text : Octets) (mode : Nat) : Option Nat :=
  match octal? text with
  | some n => if n ≤ 0o7777 then some n else none
  | none =>
    (text.splitOn ",").foldlM (fun mode clause =>
      let cs := clause.toList
      let isWho (c : Char) : Bool := "ugoa".toList.contains c
      let who := cs.takeWhile isWho
      let actions := cs.dropWhile isWho
      if actions = [] then none
      else applyActions umask isDirectory who (actions.length + 1) actions mode) mode

/-- The rights of one group of three bits. -/
def rights (bits : Nat) : Octets :=
  (if bits.testBit 2 then "r" else "") ++ (if bits.testBit 1 then "w" else "") ++
    (if bits.testBit 0 then "x" else "")

def symbolic (umask : Nat) : Octets :=
  let left := 0o777 ^^^ umask
  "u=" ++ rights (left / 64) ++ ",g=" ++ rights (left / 8 % 8) ++ ",o=" ++ rights (left % 8)

/-- The rights in the long form of a listing, without the kind of the entry. -/
def long (mode : Nat) : Octets :=
  let three (bits : Nat) (special : Bool) (letter : Char) : List Char :=
    [if bits.testBit 2 then 'r' else '-', if bits.testBit 1 then 'w' else '-',
      if special then (if bits.testBit 0 then letter else letter.toUpper)
      else if bits.testBit 0 then 'x' else '-']
  String.ofList (three (mode / 64 % 8) (mode.testBit 11) 's' ++
    three (mode / 8 % 8) (mode.testBit 10) 's' ++ three (mode % 8) (mode.testBit 9) 't')

end Launchpad.Machine.Permissions
