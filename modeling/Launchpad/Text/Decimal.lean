/-!
Numbers with a fraction and the ways to write them down: with a fixed number of places, with an
exponent, or in whichever of the two forms is shorter. A number is held exactly, as a quotient, and
is rounded once when it is written; a quotient half way between two results goes to the even one.
-/

namespace Launchpad.Text

/-- A number with a fraction, or one of the values that stand for none. -/
inductive Decimal where
  | finite (negative : Bool) (numerator denominator : Nat)
  | infinite (negative : Bool)
  | undefined (negative : Bool)
  deriving DecidableEq, Repr, Inhabited

/-- The nearest whole number to a quotient, the even one of two. -/
def roundDiv (numerator denominator : Nat) : Nat :=
  let q := numerator / denominator
  let r := numerator % denominator
  if 2 * r > denominator || (2 * r = denominator && q % 2 = 1) then q + 1 else q

def tenTo (n : Nat) : Nat := Nat.pow 10 n

def twoTo (n : Nat) : Nat := Nat.pow 2 n

namespace Decimal

def ofInt (n : Int) : Decimal := .finite (n < 0) n.natAbs 1

/-- The number that the bits of a float stand for. -/
def ofFloat (x : Float) : Decimal :=
  let bits := x.toBits.toNat
  let negative := bits / twoTo 63 = 1
  let exponent := bits / twoTo 52 % 2048
  let fraction := bits % twoTo 52
  if exponent = 2047 then
    if fraction = 0 then .infinite negative else .undefined negative
  else
    let mantissa := if exponent = 0 then fraction else fraction + twoTo 52
    let power := if exponent = 0 then 1 else exponent
    if power ≥ 1075 then .finite negative (mantissa * twoTo (power - 1075)) 1
    else .finite negative mantissa (twoTo (1075 - power))

/-- How many digits a number has when it is written with a base. -/
def digitCount (base : Nat) (n : Nat) : Nat :=
  (Nat.toDigits base n).length

/-- The nearest number whose binary form has so many digits. -/
def rounded (digits : Nat) : Decimal → Decimal
  | .finite negative n d =>
    if n = 0 then .finite negative 0 1
    else
      -- scale the quotient until its whole part has as many binary digits as are asked for
      let size : Int := (digitCount 2 n : Int) - digitCount 2 d
      let shift : Int := digits - size
      let (n', d') :=
        if shift ≥ 0 then (n * twoTo shift.toNat, d) else (n, d * twoTo (-shift).toNat)
      let (n', d', shift) :=
        if n' / d' ≥ twoTo digits then (n', d' * 2, shift - 1) else (n', d', shift)
      let m := roundDiv n' d'
      if shift ≥ 0 then .finite negative m (twoTo shift.toNat)
      else .finite negative (m * twoTo (-shift).toNat) 1
  | x => x

def toFloat : Decimal → Float
  | .finite negative n d =>
    match rounded 53 (.finite negative n d) with
    | .finite _ n d =>
      -- both parts are whole powers of two times a number that a float can hold
      let x := if d = 1 then Float.ofNat n else
        let places := digitCount 2 d - 1
        Float.ofNat n * Float.scaleB 1.0 (-(places : Int))
      if negative then -x else x
    | _ => 0
  | .infinite negative => if negative then -(1.0 / 0.0) else 1.0 / 0.0
  | .undefined _ => 0.0 / 0.0

/-- The number is below zero, or a zero with such a sign. -/
def isNegative : Decimal → Bool
  | .finite negative _ _ => negative
  | .infinite negative => negative
  | .undefined negative => negative

/-- Digits with a point in front of the last of them. -/
def withPoint (places : Nat) (point : Bool) (n : Nat) : String :=
  let digits := toString n
  let digits := "".pushn '0' (places + 1 - digits.length) ++ digits
  let whole := (digits.take (digits.length - places)).toString
  let part := (digits.drop (digits.length - places)).toString
  if places = 0 then (if point then whole ++ "." else whole) else whole ++ "." ++ part

def fixed (places : Nat) (point : Bool) (n d : Nat) : String :=
  withPoint places point (roundDiv (n * tenTo places) d)

/-- The exponent of ten in front of which a quotient has one digit. -/
def exponentOf (n d : Nat) : Int :=
  if n = 0 then 0
  else
    let guess : Int := (digitCount 10 n : Int) - digitCount 10 d
    let fits : Bool := if guess ≥ 0 then n ≥ d * tenTo guess.toNat
      else n * tenTo (-guess).toNat ≥ d
    if fits then guess else guess - 1

/-- One digit, so many places, and the exponent, with what rounding makes of it. -/
def significant (places : Nat) (n d : Nat) : Nat × Int :=
  if n = 0 then (0, 0)
  else
    let e := exponentOf n d
    let scale : Int := places - e
    let m := if scale ≥ 0 then roundDiv (n * tenTo scale.toNat) d
      else roundDiv n (d * tenTo (-scale).toNat)
    if m ≥ tenTo (places + 1) then (m / 10, e + 1) else (m, e)

/-- The text of an exponent: a sign and at least two digits. -/
def exponentText (e : Int) : String :=
  let digits := toString e.natAbs
  (if e < 0 then "e-" else "e+") ++ (if digits.length < 2 then "0" ++ digits else digits)

def scientific (places : Nat) (point : Bool) (n d : Nat) : String :=
  let (m, e) := significant places n d
  withPoint places point m ++ exponentText e

/-- A text without the zeros at the end of its fraction. -/
def withoutZeros (text : String) : String :=
  if text.toList.contains '.' then
    let kept := text.toList.reverse.dropWhile (· = '0')
    String.ofList (match kept with
      | '.' :: rest => rest.reverse
      | kept => kept.reverse)
  else text

/-- A quotient with so many significant digits, with an exponent when that is shorter. -/
def general (precision : Nat) (keepZeros : Bool) (n d : Nat) : String :=
  let precision := if precision = 0 then 1 else precision
  let (m, e) := significant (precision - 1) n d
  if e < -4 || e ≥ precision then
    let body := withPoint (precision - 1) keepZeros m
    (if keepZeros then body else withoutZeros body) ++ exponentText e
  else
    let body := fixed (precision - 1 - e).toNat keepZeros n d
    if keepZeros then body else withoutZeros body

/-- A number in the form that a letter stands for: `f`, `e` or `g`. Without its sign. -/
def write (form : Char) (precision : Nat) (alternate : Bool) : Decimal → String
  | .infinite _ => "inf"
  | .undefined _ => "nan"
  | .finite _ n d =>
    match form with
    | 'f' => fixed precision alternate n d
    | 'e' => scientific precision alternate n d
    | _ => general precision alternate n d

/-- The value of a digit in a base of at most sixteen. -/
def digitIn? (base : Nat) (c : Char) : Option Nat :=
  let value? : Option Nat :=
    if c.isDigit then some (c.toNat - '0'.toNat)
    else if 'a' ≤ c.toLower && c.toLower ≤ 'f' then some (c.toLower.toNat - 'a'.toNat + 10)
    else none
  value?.filter (· < base)

/-- Digits of a base, perhaps with a point among them: their value, how many of them stand behind
the point, how many there are, and the rest. -/
def readDigits (base : Nat) (cs : List Char) : Nat × Nat × Nat × List Char :=
  let isDigit (c : Char) : Bool := (digitIn? base c).isSome
  let whole := cs.takeWhile isDigit
  let behind := cs.dropWhile isDigit
  let (part, rest) : List Char × List Char := match behind with
    | '.' :: more =>
      if whole = [] && !more.head?.any isDigit then ([], behind)
      else (more.takeWhile isDigit, more.dropWhile isDigit)
    | behind => ([], behind)
  let value := (whole ++ part).foldl (fun n c => n * base + (digitIn? base c).getD 0) 0
  (value, part.length, whole.length + part.length, rest)

/-- The exponent behind a letter, and the rest. Without digits there is none. -/
def readExponent (letter : Char) (cs : List Char) : Int × List Char :=
  match cs with
  | c :: rest =>
    if c.toLower = letter then
      let (negative, digits) : Bool × List Char := match rest with
        | '-' :: more => (true, more)
        | '+' :: more => (false, more)
        | more => (false, more)
      let own := digits.takeWhile Char.isDigit
      if own = [] then (0, cs)
      else
        let n := own.foldl (fun n c => n * 10 + (c.toNat - '0'.toNat)) 0
        let n := min n 99999
        (if negative then -(n : Int) else n, digits.dropWhile Char.isDigit)
    else (0, cs)
  | [] => (0, cs)

/-- A number without a sign, and what is behind it. -/
def readUnsigned? (negative : Bool) (cs : List Char) : Option (Decimal × List Char) :=
  let lower := String.ofList (cs.map Char.toLower)
  let scaled (n base : Nat) (e : Int) : Decimal :=
    if e ≥ 0 then .finite negative (n * Nat.pow base e.toNat) 1
    else .finite negative n (Nat.pow base (-e).toNat)
  if lower.startsWith "infinity" then some (.infinite negative, cs.drop 8)
  else if lower.startsWith "inf" then some (.infinite negative, cs.drop 3)
  else if lower.startsWith "nan" then some (.undefined negative, cs.drop 3)
  else
    let hexadecimal? : Option (Decimal × List Char) :=
      if lower.startsWith "0x" then
        let (n, places, count, rest) := readDigits 16 (cs.drop 2)
        if count = 0 then none
        else
          let (e, rest) := readExponent 'p' rest
          some (scaled n 2 (e - 4 * places), rest)
      else none
    match hexadecimal? with
    | some result => some result
    | none =>
      let (n, places, count, rest) := readDigits 10 cs
      if count = 0 then none
      else
        let (e, rest) := readExponent 'e' rest
        let e := if n = 0 then 0 else e
        some (scaled n 10 (e - places), rest)

/-- A number at the front of a text, behind blanks and perhaps a sign, and what is behind it. -/
def read? (cs : List Char) : Option (Decimal × List Char) :=
  match cs.dropWhile fun c => c = ' ' || ('\t' ≤ c && c ≤ '\x0d') with
  | '-' :: rest => readUnsigned? true rest
  | '+' :: rest => readUnsigned? false rest
  | rest => readUnsigned? false rest

end Decimal

end Launchpad.Text
